import StackCalculator.LineEditor
import StackCalculator.Proofs.Session.Endings

/-!
# Sessions as lines that are fed

A session over a stream and one over the line editor differ in how they come by their lines and in
what they do when something goes wrong.  Where nothing fails, either of them feeds its lines up to
the first that asks to quit and then says farewell, which is what `Call.concluded` does to a call
that fed lines.

* `Session.run_eq_concluded` — a stream that ends comes to the lines of its text in which something
  stands, whatever the destination does.  If it was put together from lines, it comes to these
  (`Session.run_lines`).
* `LineEditor.feedThen_eq` — the loop of the line editor takes the same steps, on a destination on
  which nothing fails.  On others it does not: it says no farewell after an error.
-/

set_option autoImplicit false

namespace StackCalculator

/-- How a session ends if it goes no further. -/
def Flow.ending : Flow → Ending
  | .continue => .endOfInput
  | .quit => .quit

/-- A call that fed lines, and what follows if there are no more. -/
def Call.concluded {δ : Type} (call : Call δ Flow) : Call δ Ending :=
  ⟨call.result.map Flow.ending, call.events ++ [farewell], call.session⟩

theorem Call.concluded_precededBy {δ : Type} (call : Call δ Flow) (events : List Event) :
    (call.precededBy events).concluded = call.concluded.precededBy events := by
  simp [concluded, precededBy]

namespace Session

variable {δ : Type} [Destination δ]

/-- Lines of blanks might as well be left out. -/
theorem feedLines_filter (s : Session δ) (lines : List String) :
    s.feedLines (lines.filter isFilled) = s.feedLines lines := by
  induction lines generalizing s with
  | nil => rfl
  | cons line lines ih =>
    cases hfilled : isFilled line with
    | true =>
      rw [List.filter_cons_of_pos hfilled, feedLines, feedLines]
      simp only [ih]
    | false =>
      have hblank : Text.trim line.toList = [] := by simpa [isFilled] using hfilled
      rw [List.filter_cons_of_neg (by simp [hfilled]), ih, feedLines, s.feed_of_blank hblank]
      rfl

theorem run_eq_concluded (s : Session δ) (bytes : List UInt8) :
    s.run ⟨bytes, none⟩ =
      (s.feedLines (Text.script (Text.Utf8.decodeLossy bytes))).concluded := by
  rw [← filter_lines, feedLines_filter, run, readLines, Call.closed, Call.concluded]
  cases (s.feedLines ((Source.lines ⟨bytes, none⟩).map decodeLine)).result with
  | error error => rfl
  | ok flow => cases flow <;> rfl

/-- A stream that consists of lines with a line feed after each comes to these lines. -/
theorem run_lines (s : Session δ) {lines : List String}
    (h : ∀ line ∈ lines, '\n' ∉ line.toList) :
    s.run ⟨(String.join (lines.map (· ++ "\n"))).toUTF8.toList, none⟩ =
      (s.feedLines lines).concluded := by
  have htext : (String.join (lines.map (· ++ "\n"))).toList =
      (lines.map String.toList).flatMap (· ++ ['\n']) ++ [] := by
    simp [String.toList_join, List.flatMap_map]
  have hpieces : ∀ line ∈ lines.map String.toList, '\n' ∉ line := by simpa using h
  have hscript : ((lines.map String.toList ++ [[]]).map String.ofList).filter isFilled =
      lines.filter isFilled := by
    have hlines : (lines.map String.toList).map String.ofList = lines := by simp
    have hempty : ([[]].map String.ofList).filter isFilled = [] := rfl
    rw [List.map_append, List.filter_append, hlines, hempty, List.append_nil]
  rw [run_eq_concluded, Text.Utf8.toList_toUTF8, Text.Utf8.decodeLossy_encode, Text.script, htext,
    Text.splitOn_lines hpieces List.not_mem_nil, hscript, feedLines_filter]

end Session

/-! ## A line that quits or not -/

namespace LineEditor

variable {δ : Type} [Destination δ] {s : Session δ} {line : String}

/-- What comes after a line that quits is not looked at. -/
theorem feedThen_of_quit (h : isCommand .quit line = true) (rest : Session δ → Call δ Ending) :
    feedThen s line rest = (ended (s.feed line).session .quit).precededBy (s.feed line).events := by
  rw [feedThen, Session.result_feed_eq_quit_iff.2 h]

theorem feedThen_of_not_stopsOn (h : s.stopsOn line = false) (rest : Session δ → Call δ Ending) :
    feedThen s line rest = (rest (s.feed line).session).precededBy (s.feed line).events := by
  rw [feedThen, Session.result_feed_eq_continue_iff.2 h]

theorem feedThen_congr {rest rest' : Session δ → Call δ Ending}
    (h : isCommand .quit line = false → rest (s.feed line).session = rest' (s.feed line).session) :
    feedThen s line rest = feedThen s line rest' := by
  cases hquit : isCommand .quit line with
  | true => rw [feedThen_of_quit hquit, feedThen_of_quit hquit]
  | false => rw [feedThen, feedThen, h hquit]

end LineEditor

/-! ## Where nothing fails -/

section Reliable

variable {δ : Type} [Destination δ] {reliable : Reliable δ} {s : Session δ}

theorem Reliable.writeFailure?_eq_none (hs : reliable.Sound s.out) (line : String) :
    s.writeFailure? line = none := by
  obtain ⟨out, hwrite, -⟩ := reliable.writeLine hs s.calculator.stack.listing
  simp [Session.writeFailure?, hwrite]

theorem Reliable.stopsOn_eq (hs : reliable.Sound s.out) (line : String) :
    s.stopsOn line = isCommand .quit line := by
  rw [Session.stopsOn, writeFailure?_eq_none hs, Option.isSome_none, Bool.or_false]

theorem Reliable.sound_feed (hs : reliable.Sound s.out) (line : String) :
    reliable.Sound (s.feed line).session.out := by
  cases hfilled : isFilled line with
  | true => exact (Session.executes_singleton hs hfilled).sound
  | false =>
    rw [s.feed_of_blank (by simpa [isFilled] using hfilled)]
    exact hs

/-- The lines that are fed are those up to the first that quits. -/
theorem Reliable.fed_eq (hs : reliable.Sound s.out) (lines : List String) :
    s.fed lines = executed lines := by
  induction lines generalizing s with
  | nil => rfl
  | cons line lines ih =>
    rw [Session.fed, executed, stopsOn_eq hs]
    simp only [ih (sound_feed hs line)]

theorem LineEditor.feedThen_of_not_quit (hs : reliable.Sound s.out) {line : String}
    (h : isCommand .quit line = false) (rest : Session δ → Call δ Ending) :
    feedThen s line rest = (rest (s.feed line).session).precededBy (s.feed line).events :=
  feedThen_of_not_stopsOn ((Reliable.stopsOn_eq hs line).trans h) rest

/-- The loop of the line editor does what feeding lines does. -/
theorem LineEditor.feedThen_eq (hs : reliable.Sound s.out) (line : String)
    {rest : Session δ → Call δ Ending} {lines : List String}
    (hrest : isCommand .quit line = false →
      rest (s.feed line).session = ((s.feed line).session.feedLines lines).concluded) :
    feedThen s line rest = (s.feedLines (line :: lines)).concluded := by
  have hstops := Reliable.stopsOn_eq hs line
  cases hquit : isCommand .quit line with
  | true =>
    rw [feedThen_of_quit hquit, Session.feedLines_cons_of_stopsOn (hstops.trans hquit),
      Call.concluded, Session.result_feed_eq_quit_iff.2 hquit]
    rfl
  | false =>
    rw [feedThen_of_not_quit hs hquit, hrest hquit,
      Session.feedLines_cons_of_not_stopsOn (hstops.trans hquit), Call.concluded_precededBy]

end Reliable

end StackCalculator
