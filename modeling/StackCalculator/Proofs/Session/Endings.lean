import StackCalculator.Proofs.Calculator.Messages
import StackCalculator.Proofs.Session.Reading
import StackCalculator.Proofs.Text.Encoding

/-!
# How a session ends

Four things can end the reading of a stream: a line that asks to quit, a listing that cannot be
written, the end of the input, and a failure to read on.  This file says which lines are fed in each
case, whatever the bytes of the stream are and whatever the destination does.

* `Destination.LineFails` — writing a line fails exactly if writing its text, writing the line feed
  or flushing does (`Destination.writeLine_eq_error_iff`).
* `Session.result_feed` — what a single line answers is known without feeding it: it quits, or it is
  a `print` whose listing cannot be written (`Session.ListingFails`), or the session goes on.
* `Session.fed` — hence it is known which lines are fed: all that there are, or those up to the
  first that stops the session.
* `Session.run_feeds_until_stopped` — **the main result**: the lines of the stream are fed up to
  that point, the session afterwards is the one that feeding them leads to, the result tells how it
  ended, and in each case the farewell is said once, after everything else.

The rest of a stream after its last line feed is a line if the input ends there, but not if reading
fails there, and not if it is empty.  The other lines are fed with their line feed, which makes no
difference to feeding them without it (`Session.feedLines_congr`).
-/

set_option autoImplicit false

namespace StackCalculator

/-! ## Lines with their line feed -/

theorem Text.trim_append_of_isBlank {text : List Char} {c : Char} (hc : isBlank c = true) :
    trim (text ++ [c]) = trim text := by
  rw [trim, trim, List.dropWhile_append]
  split
  · rename_i hnil
    rw [List.isEmpty_iff.1 hnil, List.dropWhile_cons_of_pos hc, List.dropWhile_nil]
  · rw [trimEnd_eq_rdropWhile, List.rdropWhile_concat_pos _ _ _ hc, ← trimEnd_eq_rdropWhile]

theorem trim_decodeLine_append_lineFeed (bytes : List UInt8) :
    Text.trim (Session.decodeLine (bytes ++ [10])).toList =
      Text.trim (Session.decodeLine bytes).toList := by
  rw [Session.decodeLine, Session.decodeLine, Text.Utf8.decodeLossy_append_lineFeed,
    String.toList_ofList, String.toList_ofList]
  exact Text.trim_append_of_isBlank rfl

/-- The bytes of the stream are these lines, each with its line feed, and a rest without any. -/
structure Source.IsCut (source : Source) (lines : List (List UInt8)) (rest : List UInt8) :
    Prop where
  /-- Nothing is missing or out of order. -/
  bytes : source.bytes = lines.flatten ++ rest
  /-- The line feed of a line is at its end. -/
  line : ∀ line ∈ lines, ∃ text, line = text ++ [10] ∧ 10 ∉ text
  /-- There is no line feed in the rest. -/
  rest : 10 ∉ rest

/-- The lines that can be read are those of a cut, and the rest if it counts as a line, except that
they lack the line feeds. -/
theorem Source.IsCut.map_trim_lines {source : Source} {lines : List (List UInt8)}
    {rest : List UInt8} (h : source.IsCut lines rest) :
    (source.lines.map Session.decodeLine).map (Text.trim ·.toList) =
      ((lines ++ if rest ≠ [] ∧ source.failure = none then [rest] else []).map
        Session.decodeLine).map (Text.trim ·.toList) := by
  obtain ⟨texts, rfl⟩ : lines ∈ Set.range (List.map (· ++ [10])) := by
    rw [Set.range_list_map]
    intro line hline
    obtain ⟨text, htext, -⟩ := h.line line hline
    exact ⟨text, htext.symm⟩
  have htexts : ∀ text ∈ texts, 10 ∉ text := by
    intro text htext
    obtain ⟨text', heq, hmem⟩ := h.line _ (List.mem_map_of_mem htext)
    rwa [List.append_cancel_right heq]
  have hread : source.lines =
      texts ++ if rest ≠ [] ∧ source.failure = none then [rest] else [] := by
    rw [Source.lines, Source.pieces, h.bytes, ← List.flatMap_def,
      Text.splitOn_lines htexts h.rest]
    obtain ⟨bytes, failure⟩ := source
    cases failure <;> by_cases hrest : rest = [] <;> simp [hrest]
  rw [hread]
  simp only [List.map_append, List.map_map]
  congr 1
  exact List.map_congr_left fun line _ => (trim_decodeLine_append_lineFeed line).symm

/-- The lines that can be read, each with its line feed, and the rest if it counts as a line. -/
theorem Source.exists_isCut (source : Source) :
    ∃ lines rest, source.IsCut lines rest ∧
      (source.lines.map Session.decodeLine).map (Text.trim ·.toList) =
        ((lines ++ if rest ≠ [] ∧ source.failure = none then [rest] else []).map
          Session.decodeLine).map (Text.trim ·.toList) := by
  obtain ⟨lines, rest, hbytes, hlines, hrest⟩ := Text.exists_lines 10 source.bytes
  have hcut : source.IsCut (lines.map (· ++ [10])) rest :=
    ⟨by rw [hbytes, List.flatMap_def], by simpa using fun line hline => hlines line hline, hrest⟩
  exact ⟨_, rest, hcut, hcut.map_trim_lines⟩

/-! ## Listings that cannot be written -/

section Writing

variable {δ : Type} [Destination δ]

/-- A line cannot be written for a reason.  Its text is written, then the line feed, and then both
are flushed; the first of these that fails has the reason. -/
inductive Destination.LineFails (out : δ) (line : String) (reason : String) : Prop where
  /-- The text cannot be written. -/
  | text {after : δ} (htext : write out line.toUTF8.toList = (.error reason, after))
  /-- The line feed cannot be written. -/
  | lineFeed {after after' : δ} (htext : write out line.toUTF8.toList = (.ok (), after))
      (hfeed : write after [10] = (.error reason, after'))
  /-- What was written cannot be flushed. -/
  | flush {after after' after'' : δ} (htext : write out line.toUTF8.toList = (.ok (), after))
      (hfeed : write after [10] = (.ok (), after')) (hflush : flush after' = (.error reason, after''))

theorem Destination.writeLine_eq_error_iff {out : δ} {line reason : String} :
    (writeLine out line).1 = .error reason ↔ LineFails out line reason := by
  constructor
  · rw [writeLine]
    intro h
    split at h
    · rename_i after htext
      exact .text (htext.trans (congrArg (·, after) h))
    · rename_i htext
      split at h
      · rename_i after hfeed
        exact .lineFeed htext (hfeed.trans (congrArg (·, after) h))
      · rename_i hfeed
        exact .flush htext hfeed (Prod.ext h rfl)
  · rintro (htext | ⟨htext, hfeed⟩ | ⟨htext, hfeed, hflush⟩)
    · rw [writeLine, htext]
    · simp only [writeLine, htext, hfeed]
    · simp only [writeLine, htext, hfeed, hflush]

/-- The line asks for the listing of the stack, and this is why it cannot be written. -/
def Session.ListingFails (s : Session δ) (line reason : String) : Prop :=
  isCommand .print line = true ∧ Destination.LineFails s.out s.calculator.stack.listing reason

end Writing

/-! ## Single lines -/

theorem parse_of_blank {line : String} (h : Text.trim line.toList = []) :
    Command.parse line = .error (.unrecognized "") := by
  rw [Command.parse, Text.normalize_eq_nil_iff.2 h]
  rfl

namespace Session

variable {δ : Type} [Destination δ]

/-- Why the listing that the line asks for cannot be written, if it asks for one and that is so. -/
def writeFailure? (s : Session δ) (line : String) : Option String :=
  if isCommand .print line then
    match (Destination.writeLine s.out s.calculator.stack.listing).1 with
    | .ok () => none
    | .error text => some text
  else none

theorem writeFailure?_eq_some_iff {s : Session δ} {line reason : String} :
    s.writeFailure? line = some reason ↔ s.ListingFails line reason := by
  rw [ListingFails, ← Destination.writeLine_eq_error_iff, writeFailure?]
  cases isCommand .print line with
  | false => simp
  | true =>
    simp only [if_true, true_and]
    cases (Destination.writeLine s.out s.calculator.stack.listing).1 with
    | ok _ => simp
    | error text => simp

/-- Whether no more lines are fed after this one. -/
def stopsOn (s : Session δ) (line : String) : Bool :=
  isCommand .quit line || (s.writeFailure? line).isSome

theorem stopsOn_iff {s : Session δ} {line : String} :
    s.stopsOn line = true ↔
      isCommand .quit line = true ∨ ∃ reason, s.ListingFails line reason := by
  rw [stopsOn, Bool.or_eq_true, Option.isSome_iff_exists]
  simp only [writeFailure?_eq_some_iff]

theorem result_settle (s : Session δ) (effect : Effect) (events : List Event) :
    (s.settle effect events).result =
      match effect with
      | .none => .ok .continue
      | .quit => .ok .quit
      | .print listing =>
        match (Destination.writeLine s.out listing).1 with
        | .ok () => .ok .continue
        | .error text => .error (.io text) := by
  cases effect with
  | none | quit => rfl
  | print listing =>
    simp only [settle]
    split <;> rename_i hwrite <;> rw [hwrite]

theorem events_settle (s : Session δ) (effect : Effect) (events : List Event) :
    (s.settle effect events).events = events := by
  cases effect with
  | none | quit => rfl
  | print listing =>
    rw [settle]
    split <;> rfl

theorem calculator_settle (s : Session δ) (effect : Effect) (events : List Event) :
    (s.settle effect events).session.calculator = s.calculator := by
  cases effect with
  | none | quit => rfl
  | print listing =>
    rw [settle]
    split <;> rfl

theorem isCommand_of_blank {command : Command} {line : String}
    (h : Text.trim line.toList = []) : isCommand command line = false := by
  rw [Bool.eq_false_iff, Ne, isCommand_iff, parse_of_blank h]
  exact nofun

/-- What a line answers is known without feeding it. -/
theorem result_feed (s : Session δ) (line : String) :
    (s.feed line).result =
      if isCommand .quit line then .ok .quit
      else match s.writeFailure? line with
        | some text => .error (.io text)
        | none => .ok .continue := by
  rw [writeFailure?]
  by_cases hblank : Text.trim line.toList = []
  · rw [s.feed_of_blank hblank, isCommand_of_blank hblank, isCommand_of_blank hblank]
    rfl
  · rw [s.feed_of_not_blank hblank, result_settle, effect_execute_eq]
    cases hprint : isCommand .print line with
    | false => cases isCommand .quit line <;> rfl
    | true =>
      have hquit : isCommand .quit line = false := isCommand_of_ne hprint nofun
      rw [hquit]
      simp only [if_true]
      cases (Destination.writeLine s.out s.calculator.stack.listing).1 with
      | ok _ => rfl
      | error text => rfl

theorem result_feed_eq_quit_iff {s : Session δ} {line : String} :
    (s.feed line).result = .ok .quit ↔ isCommand .quit line = true := by
  rw [result_feed]
  split
  · simp [*]
  · split <;> simp [*]

theorem result_feed_eq_error_iff {s : Session δ} {line : String} {error : SessionError} :
    (s.feed line).result = .error error ↔
      ∃ reason, error = .io reason ∧ s.ListingFails line reason := by
  simp only [← writeFailure?_eq_some_iff]
  rw [result_feed]
  split
  · rename_i hquit
    have hprint : isCommand .print line = false := by
      rw [Bool.eq_false_iff, Ne, isCommand_iff, isCommand_iff.1 hquit]
      exact nofun
    simp [writeFailure?, hprint]
  · split <;> simp [*, eq_comm]

theorem result_feed_eq_continue_iff {s : Session δ} {line : String} :
    (s.feed line).result = .ok .continue ↔ s.stopsOn line = false := by
  rw [result_feed, stopsOn]
  split
  · simp [*]
  · split <;> simp [*]

theorem result_feed_ne_continue {s : Session δ} {line : String} (h : s.stopsOn line = true) :
    (s.feed line).result ≠ .ok .continue := by
  rw [Ne, result_feed_eq_continue_iff, h]
  exact nofun

/-- The calculator has executed the line, whatever came of it otherwise. -/
theorem calculator_feed (s : Session δ) (line : String) :
    (s.feed line).session.calculator = (s.calculator.execute line).after := by
  by_cases hblank : Text.trim line.toList = []
  · rw [s.feed_of_blank hblank, Calculator.execute, parse_of_blank hblank]
  · rw [s.feed_of_not_blank hblank, calculator_settle]

/-- What a line reports at the level `info` is a message of the calculator. -/
theorem info_not_mem_events_feed {text : String} (h : ¬ HasInitial text) (s : Session δ)
    (line : String) : Event.info text ∉ (s.feed line).events := by
  by_cases hblank : Text.trim line.toList = []
  · rw [s.feed_of_blank hblank]
    exact List.not_mem_nil
  · rw [s.feed_of_not_blank hblank, events_settle, List.mem_append, List.mem_singleton, not_or]
    refine ⟨fun hmem => absurd (Calculator.level_of_mem_execute hmem) nofun, fun heq => ?_⟩
    obtain ⟨hlevel, rfl⟩ := Event.message.inj heq
    refine h (Calculator.hasInitial_execute ?_)
    cases hseverity : (s.calculator.execute line).outcome.severity with
    | info => rfl
    | debug | warning => rw [hseverity] at hlevel; cases hlevel

/-! ## Lines one after the other -/

/-- The session after some lines have been fed to it, whatever came of each. -/
def after (s : Session δ) (lines : List String) : Session δ :=
  lines.foldl (fun s line => (s.feed line).session) s

/-- What is reported while some lines are fed, whatever comes of each. -/
def reports (s : Session δ) : List String → List Event
  | [] => []
  | line :: lines => (s.feed line).events ++ (s.feed line).session.reports lines

/-- The lines that are fed, of those there are: all up to the first that stops the session. -/
def fed (s : Session δ) : List String → List String
  | [] => []
  | line :: lines => line :: if s.stopsOn line then [] else (s.feed line).session.fed lines

/-- There is a last line, and this holds of it and the session it is fed to. -/
def EndsOn (s : Session δ) (lines : List String) (P : Session δ → String → Prop) : Prop :=
  ∃ start line, lines = start ++ [line] ∧ P (s.after start) line

theorem endsOn_nil {s : Session δ} {P : Session δ → String → Prop} : ¬ s.EndsOn [] P := by
  rintro ⟨start, line, h, -⟩
  exact List.append_ne_nil_of_right_ne_nil start (List.cons_ne_nil line []) h.symm

theorem endsOn_cons {s : Session δ} {line : String} {lines : List String}
    {P : Session δ → String → Prop} :
    s.EndsOn (line :: lines) P ↔ lines = [] ∧ P s line ∨ (s.feed line).session.EndsOn lines P := by
  constructor
  · rintro ⟨_ | ⟨first, start⟩, last, h, hlast⟩
    · obtain ⟨rfl, rfl⟩ := List.cons.inj h
      exact .inl ⟨rfl, hlast⟩
    · obtain ⟨rfl, rfl⟩ := List.cons.inj h
      exact .inr ⟨start, last, rfl, hlast⟩
  · rintro (⟨rfl, hline⟩ | ⟨start, last, rfl, hlast⟩)
    · exact ⟨[], line, rfl, hline⟩
    · exact ⟨line :: start, last, rfl, hlast⟩

theorem endsOn_congr {s : Session δ} {lines : List String} {P Q : Session δ → String → Prop}
    (h : ∀ s line, P s line ↔ Q s line) : s.EndsOn lines P ↔ s.EndsOn lines Q := by
  simp only [EndsOn, h]

theorem calculator_after (s : Session δ) (lines : List String) :
    (s.after lines).calculator = s.calculator.run (lines.map .line) := by
  induction lines generalizing s with
  | nil => rfl
  | cons line lines ih =>
    have hstep : (s.calculator.step (.line line)).2 = (s.feed line).session.calculator :=
      (s.calculator_feed line).symm
    rw [List.map_cons, Calculator.run_cons, hstep]
    exact ih _

theorem info_not_mem_reports {text : String} (h : ¬ HasInitial text) (s : Session δ)
    (lines : List String) : Event.info text ∉ s.reports lines := by
  induction lines generalizing s with
  | nil => exact List.not_mem_nil
  | cons line lines ih => exact List.not_mem_append (s.info_not_mem_events_feed h line) (ih _)

/-! ## Lines until the session is stopped -/

theorem feedLines_cons_of_stopsOn {s : Session δ} {line : String} (h : s.stopsOn line = true)
    (lines : List String) : s.feedLines (line :: lines) = s.feed line := by
  rw [feedLines]
  split
  · exact absurd ‹_› (result_feed_ne_continue h)
  · rfl

theorem feedLines_cons_of_not_stopsOn {s : Session δ} {line : String} (h : s.stopsOn line = false)
    (lines : List String) :
    s.feedLines (line :: lines) =
      ((s.feed line).session.feedLines lines).precededBy (s.feed line).events := by
  rw [feedLines, result_feed_eq_continue_iff.2 h]

/-- Lines are fed as they are without the blanks around them. -/
theorem feedLines_congr {s : Session δ} {lines lines' : List String}
    (h : lines.map (Text.trim ·.toList) = lines'.map (Text.trim ·.toList)) :
    s.feedLines lines = s.feedLines lines' := by
  induction lines generalizing s lines' with
  | nil => rw [List.map_eq_nil_iff.1 h.symm]
  | cons line lines ih =>
    obtain ⟨line', lines', rfl, hline, hlines⟩ := List.map_eq_cons_iff.1 h.symm
    rw [feedLines, feedLines, s.feed_congr hline]
    simp only [ih hlines.symm]

theorem fed_prefix (s : Session δ) (lines : List String) : s.fed lines <+: lines := by
  induction lines generalizing s with
  | nil => exact List.prefix_rfl
  | cons line lines ih =>
    rw [fed, List.prefix_cons_inj]
    split
    · exact List.nil_prefix
    · exact ih _

theorem session_feedLines (s : Session δ) (lines : List String) :
    (s.feedLines lines).session = s.after (s.fed lines) := by
  induction lines generalizing s with
  | nil => rfl
  | cons line lines ih =>
    rw [fed]
    cases h : s.stopsOn line with
    | true => rw [feedLines_cons_of_stopsOn h]; rfl
    | false => rw [feedLines_cons_of_not_stopsOn h]; exact ih _

theorem events_feedLines (s : Session δ) (lines : List String) :
    (s.feedLines lines).events = s.reports (s.fed lines) := by
  induction lines generalizing s with
  | nil => rfl
  | cons line lines ih =>
    rw [fed]
    cases h : s.stopsOn line with
    | true => rw [feedLines_cons_of_stopsOn h]; exact (List.append_nil _).symm
    | false =>
      rw [feedLines_cons_of_not_stopsOn h]
      exact congrArg ((s.feed line).events ++ ·) (ih _)

/-- Unless the lines are all fed and the session goes on, the last one fed has the answer. -/
theorem result_feedLines_eq_iff {s : Session δ} {lines : List String}
    {result : Except SessionError Flow} (hresult : result ≠ .ok .continue) :
    (s.feedLines lines).result = result ↔
      s.EndsOn (s.fed lines) fun before line => (before.feed line).result = result := by
  induction lines generalizing s with
  | nil => exact ⟨fun h => absurd h.symm hresult, fun h => absurd h endsOn_nil⟩
  | cons line lines ih =>
    rw [fed, endsOn_cons]
    cases h : s.stopsOn line with
    | true => simp [feedLines_cons_of_stopsOn h, endsOn_nil]
    | false =>
      have hline : (s.feed line).result ≠ result := by
        rw [result_feed_eq_continue_iff.2 h]
        exact hresult.symm
      rw [feedLines_cons_of_not_stopsOn h]
      simpa [Call.precededBy, hline] using ih

theorem result_feedLines_eq_quit_iff {s : Session δ} {lines : List String} :
    (s.feedLines lines).result = .ok .quit ↔
      s.EndsOn (s.fed lines) fun _ line => isCommand .quit line = true := by
  rw [result_feedLines_eq_iff (by simp)]
  exact endsOn_congr fun _ _ => result_feed_eq_quit_iff

theorem result_feedLines_eq_error_iff {s : Session δ} {lines : List String} {error : SessionError} :
    (s.feedLines lines).result = .error error ↔
      ∃ reason, error = .io reason ∧
        s.EndsOn (s.fed lines) fun before line => before.ListingFails line reason := by
  rw [result_feedLines_eq_iff (by simp), endsOn_congr fun _ _ => result_feed_eq_error_iff]
  constructor
  · rintro ⟨start, line, hfed, reason, herror, hfails⟩
    exact ⟨reason, herror, start, line, hfed, hfails⟩
  · rintro ⟨reason, herror, start, line, hfed, hfails⟩
    exact ⟨start, line, hfed, reason, herror, hfails⟩

theorem result_feedLines_eq_continue_iff {s : Session δ} {lines : List String} :
    (s.feedLines lines).result = .ok .continue ↔
      ¬ s.EndsOn (s.fed lines) fun before line => before.stopsOn line = true := by
  constructor
  · rintro h ⟨start, line, hfed, hstops⟩
    have hline := result_feed_ne_continue hstops
    have hlast := (result_feedLines_eq_iff hline).2 ⟨start, line, hfed, rfl⟩
    exact hline (hlast.symm.trans h)
  · intro h
    by_contra hresult
    obtain ⟨start, line, hfed, hlast⟩ := (result_feedLines_eq_iff hresult).1 rfl
    refine h ⟨start, line, hfed, Bool.of_not_eq_false fun hgoes => hresult ?_⟩
    rw [← hlast, result_feed_eq_continue_iff.2 hgoes]

/-! ## Streams -/

theorem result_run (s : Session δ) (source : Source) :
    (s.run source).result =
      match (s.feedLines (source.lines.map decodeLine)).result with
      | .error error => .error error
      | .ok .quit => .ok .quit
      | .ok .continue =>
        match source.failure with
        | some text => .error (.io text)
        | none => .ok .endOfInput :=
  rfl

theorem result_run_eq_quit_iff {s : Session δ} {source : Source} :
    (s.run source).result = .ok .quit ↔
      (s.feedLines (source.lines.map decodeLine)).result = .ok .quit := by
  rw [result_run]
  split
  · simp [*]
  · simp [*]
  · split <;> simp [*]

theorem result_run_eq_error_iff {s : Session δ} {source : Source} {error : SessionError} :
    (s.run source).result = .error error ↔
      (s.feedLines (source.lines.map decodeLine)).result = .error error ∨
        (s.feedLines (source.lines.map decodeLine)).result = .ok .continue ∧
          ∃ text, error = .io text ∧ source.failure = some text := by
  rw [result_run]
  split
  · simp [*]
  · simp [*]
  · split <;> simp [*, eq_comm]

theorem result_run_eq_endOfInput_iff {s : Session δ} {source : Source} :
    (s.run source).result = .ok .endOfInput ↔
      (s.feedLines (source.lines.map decodeLine)).result = .ok .continue ∧
        source.failure = none := by
  rw [result_run]
  split
  · simp [*]
  · simp [*]
  · split <;> simp [*]

/-- **A session feeds the lines of its stream until it is stopped.**  The lines are those that a
line feed ends and, where the input ends after it, a rest that is not empty; the session is stopped
by the first that asks to quit or whose listing cannot be written, which is so exactly if writing
the text of the listing, writing its line feed or flushing fails.  The result says so, or else how
the stream ended; the calculator has executed the lines that were fed and no others, the one with
the failing listing among them; and the farewell is said once, after everything else. -/
theorem run_feeds_until_stopped (s : Session δ) (source : Source) :
    (∀ (before : Session δ) (line : String), before.stopsOn line = true ↔
      isCommand .quit line = true ∨ ∃ reason, before.ListingFails line reason) ∧
    ∃ lines rest, source.IsCut lines rest ∧
      let readable := lines ++ if rest ≠ [] ∧ source.failure = none then [rest] else []
      let fed := s.fed (readable.map decodeLine)
      let call := s.run source
      fed <+: readable.map decodeLine ∧
      call.session = s.after fed ∧
      call.session.calculator = s.calculator.run (fed.map .line) ∧
      (call.result = .ok .quit ↔ s.EndsOn fed fun _ line => isCommand .quit line = true) ∧
      (∀ error, call.result = .error error ↔ ∃ reason, error = .io reason ∧
        ((s.EndsOn fed fun before line => before.ListingFails line reason) ∨
          (¬ s.EndsOn fed fun before line => before.stopsOn line = true) ∧
            source.failure = some reason)) ∧
      (call.result = .ok .endOfInput ↔
        (¬ s.EndsOn fed fun before line => before.stopsOn line = true) ∧ source.failure = none) ∧
      call.events = s.reports fed ++ [farewell] ∧
      farewell ∉ s.reports fed := by
  refine ⟨fun _ _ => stopsOn_iff, ?_⟩
  obtain ⟨lines, rest, hcut, hread⟩ := source.exists_isCut
  refine ⟨lines, rest, hcut, ?_⟩
  intro readable fed call
  have hfed : s.feedLines (source.lines.map decodeLine) = s.feedLines (readable.map decodeLine) :=
    feedLines_congr hread
  have hsession : call.session = s.after fed :=
    (congrArg Call.session hfed).trans (s.session_feedLines _)
  have hevents : call.events = s.reports fed ++ [farewell] :=
    congrArg (· ++ [farewell]) ((congrArg Call.events hfed).trans (s.events_feedLines _))
  refine ⟨s.fed_prefix _, hsession, ?_, ?_, ?_, ?_, hevents, ?_⟩
  · rw [hsession, calculator_after]
  · rw [← result_feedLines_eq_quit_iff, ← hfed]
    exact result_run_eq_quit_iff
  · intro error
    rw [result_run_eq_error_iff, hfed, result_feedLines_eq_error_iff,
      result_feedLines_eq_continue_iff]
    constructor
    · rintro (⟨reason, herror, hfails⟩ | ⟨hopen, reason, herror, hfailure⟩)
      · exact ⟨reason, herror, .inl hfails⟩
      · exact ⟨reason, herror, .inr ⟨hopen, hfailure⟩⟩
    · rintro ⟨reason, herror, hfails | ⟨hopen, hfailure⟩⟩
      · exact .inl ⟨reason, herror, hfails⟩
      · exact .inr ⟨hopen, reason, herror, hfailure⟩
  · rw [result_run_eq_endOfInput_iff, hfed, result_feedLines_eq_continue_iff]
  · exact s.info_not_mem_reports (by decide) fed

end Session

end StackCalculator
