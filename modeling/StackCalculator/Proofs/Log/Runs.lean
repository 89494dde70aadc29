import StackCalculator.Proofs.LineEditor.Farewell
import StackCalculator.Proofs.Log.Records

/-!
# The log of a session

A session logs what its lines report, and besides that the farewell and a hint at each interrupt.
These asides are lines of their own and always the same.  So whatever is typed, the log of a session
has as many lines as the outcomes say, over a stream and over the line editor in either mode.

* `LineEditor.events_runPieces`, `LineEditor.events_runEntered` — what is reported over the line
  editor, whatever the destination does.
* `unbroken_of_mem_lines`, `LineEditor.unbroken_of_mem_readable` — no line that is read from bytes
  has a line feed, whatever the bytes are and whatever a backspace deletes.
* `Session.IsLogged` — the log is that of the lines that were fed, with a number of asides.
* `Session.log_cannot_be_forged` — **no line can make the log look as if something else had
  happened**: the log consists of one line for each event, apart from the list of commands, and what
  was typed shows in the lines about it only.

At a terminal the lines are what the editor submits, and of these it is assumed that they are lines.
-/

set_option autoImplicit false

namespace StackCalculator

/-! ## Lines that are read -/

theorem Text.not_mem_of_mem_splitOn {α : Type} [BEq α] [LawfulBEq α] {x : α} {xs piece : List α}
    (h : piece ∈ xs.splitOn x) : x ∉ piece := by
  obtain ⟨lines, rest, rfl, hlines, hrest⟩ := exists_lines x xs
  rw [splitOn_lines hlines hrest, List.mem_append, List.mem_singleton] at h
  rcases h with h | rfl
  · exact hlines piece h
  · exact hrest

/-- A stream is read in lines. -/
theorem unbroken_of_mem_lines {source : Source} {line : String}
    (h : line ∈ source.lines.map Session.decodeLine) : Unbroken line := by
  obtain ⟨bytes, hbytes, rfl⟩ := List.mem_map.1 h
  have hpiece : bytes ∈ source.pieces := by
    rw [Source.lines] at hbytes
    split at hbytes
    · exact List.mem_of_mem_dropLast hbytes
    · exact hbytes
  have hfeed : 10 ∉ bytes := Text.not_mem_of_mem_splitOn hpiece
  exact unbroken_ofList (Text.Utf8.lineFeed_not_mem_decodeLossy hfeed)

namespace LineEditor

theorem eq_map_some_of_mapM {α : Type} {reads : List (Option α)} {text : List α}
    (h : reads.mapM id = some text) : reads = text.map some := by
  induction reads generalizing text with
  | nil => cases h; rfl
  | cons read reads ih =>
    rw [List.mapM_cons] at h
    obtain ⟨first, hfirst, h⟩ := Option.bind_eq_some_iff.1 h
    obtain ⟨rest, hrest, h⟩ := Option.bind_eq_some_iff.1 h
    cases h
    rw [List.map_cons, ← ih hrest]
    exact congrArg (· :: reads) hfirst

theorem mem_of_mem_dropReturn {text : List Char} {c : Char} (h : c ∈ dropReturn text) :
    c ∈ text := by
  rw [dropReturn] at h
  split at h
  · exact List.mem_of_mem_dropLast h
  · exact h

/-- What the piped editor makes of bytes without a line feed has none. -/
theorem unbroken_of_readLine? {editing : Editing} {terminated : Bool} {bytes : List UInt8}
    {line : String} (hbytes : 10 ∉ bytes) (h : editing.readLine? terminated bytes = some line) :
    Unbroken line := by
  obtain ⟨text, htext, rfl⟩ := Option.map_eq_some_iff.1 h
  have hfeed : '\n' ∉ text := by
    intro hmem
    refine Text.Utf8.lineFeed_not_mem_decodeFrom .boundary trivial hbytes ?_
    have hreads : Text.Utf8.decode bytes = text.map some := eq_map_some_of_mapM htext
    rw [← Text.Utf8.decode, hreads]
    exact List.mem_map_of_mem hmem
  refine unbroken_ofList (mt editing.mem_of_mem_erase ?_)
  cases terminated with
  | true => exact mt mem_of_mem_dropReturn hfeed
  | false => exact hfeed

/-- The piped editor reads in lines. -/
theorem unbroken_of_mem_readable {editing : Editing} {pieces : List (List UInt8)}
    (hpieces : ∀ piece ∈ pieces, 10 ∉ piece) {line : String} (h : line ∈ editing.readable pieces) :
    Unbroken line := by
  induction pieces with
  | nil => exact absurd h List.not_mem_nil
  | cons piece rest ih =>
    obtain ⟨hpiece, hrest⟩ := List.forall_mem_cons.1 hpieces
    rw [Editing.readable] at h
    split at h
    · exact absurd h List.not_mem_nil
    · split at h
      · exact absurd h List.not_mem_nil
      · rename_i first hfirst
        rcases List.mem_cons.1 h with rfl | h
        · exact unbroken_of_readLine? hpiece hfirst
        · exact ih hrest h

end LineEditor

/-! ## What is reported over the line editor -/

namespace Call

variable {δ : Type}

/-- What is said at the end over the line editor: the farewell, after a regular ending. -/
def closing (call : Call δ Ending) : List Event := if call.result.isOk then [farewell] else []

end Call

namespace LineEditor

variable {δ : Type} [Destination δ]

/-- After a line that does not stop the session, there is what is told later; then comes the end. -/
theorem events_feedThen (s : Session δ) (line : String) {rest : Session δ → Call δ Ending}
    {later : List Event}
    (hrest : (rest (s.feed line).session).events =
      later ++ (rest (s.feed line).session).closing) :
    (feedThen s line rest).events =
      ((s.feed line).events ++ if s.stopsOn line then [] else later) ++
        (feedThen s line rest).closing := by
  cases h : s.stopsOn line with
  | true =>
    rw [if_pos rfl, List.append_nil, feedThen]
    split
    · exact absurd ‹_› (Session.result_feed_ne_continue h)
    · rfl
    · exact (List.append_nil _).symm
  | false =>
    rw [feedThen_of_not_stopsOn h, if_neg Bool.false_ne_true, List.append_assoc]
    exact congrArg ((s.feed line).events ++ ·) hrest

theorem reports_fed_cons (s : Session δ) (line : String) (lines : List String) :
    s.reports (s.fed (line :: lines)) =
      (s.feed line).events ++ if s.stopsOn line then []
        else (s.feed line).session.reports ((s.feed line).session.fed lines) := by
  rw [Session.fed, Session.reports]
  cases s.stopsOn line <;> rfl

/-- Over the piped editor the lines are reported that can be read, up to the one that stops the
session. -/
theorem events_runPieces (editing : Editing) (s : Session δ) (pieces : List (List UInt8)) :
    (editing.runPieces s pieces).events =
      s.reports (s.fed (editing.readable pieces)) ++ (editing.runPieces s pieces).closing := by
  induction pieces generalizing s with
  | nil => rfl
  | cons piece rest ih =>
    rw [Editing.runPieces, Editing.readable]
    split
    · rfl
    · cases editing.readLine? (!rest.isEmpty) piece with
      | none => rfl
      | some line =>
        rw [reports_fed_cons]
        exact events_feedThen s line (ih _)

/-- The part of what was entered that a session comes to: all up to the first line that stops it. -/
def heeded (s : Session δ) : List (Option String) → List (Option String)
  | [] => []
  | none :: entries => none :: heeded s entries
  | some line :: entries =>
    some line :: if s.stopsOn line then [] else heeded (s.feed line).session entries

theorem reduceOption_heeded (s : Session δ) (entries : List (Option String)) :
    (heeded s entries).reduceOption = s.fed entries.reduceOption := by
  induction entries generalizing s with
  | nil => rfl
  | cons entry entries ih =>
    cases entry with
    | none => exact ih s
    | some line =>
      rw [heeded, List.reduceOption_cons_of_some, List.reduceOption_cons_of_some, Session.fed, ← ih]
      cases s.stopsOn line <;> rfl

theorem reportsWithHints_heeded_cons (s : Session δ) (line : String)
    (entries : List (Option String)) :
    reportsWithHints s (heeded s (some line :: entries)) =
      (s.feed line).events ++ if s.stopsOn line then []
        else reportsWithHints (s.feed line).session (heeded (s.feed line).session entries) := by
  rw [heeded, reportsWithHints]
  cases s.stopsOn line <;> rfl

/-- At a terminal the lines are reported that were entered, with the hints between them, up to the
one that stops the session. -/
theorem events_runEntered (s : Session δ) (entries : List (Option String)) :
    (runEntered s entries).events =
      reportsWithHints s (heeded s entries) ++ (runEntered s entries).closing := by
  induction entries generalizing s with
  | nil => rfl
  | cons entry entries ih =>
    cases entry with
    | none => exact congrArg (interruptHint :: ·) (ih s)
    | some line =>
      rw [runEntered, reportsWithHints_heeded_cons]
      exact events_feedThen s line (ih _)

end LineEditor

/-! ## Asides -/

/-- Whether the event is said by the session itself, and not about a line. -/
def Event.isAside (event : Event) : Bool := event = farewell || event = LineEditor.interruptHint

/-- The events that are about a line. -/
def withoutAsides (events : List Event) : List Event := events.filter (! ·.isAside)

theorem Event.isUnbroken_of_isAside {event : Event} (h : event.isAside = true) :
    event.level = .info ∧ event.entry.IsUnbroken := by
  simp only [isAside, Bool.or_eq_true, decide_eq_true_eq] at h
  rcases h with rfl | rfl
  · exact ⟨rfl, unbroken_ofList (by decide), List.forall_mem_nil _⟩
  · exact ⟨rfl, unbroken_ofList (by decide), List.forall_mem_nil _⟩

theorem withoutAsides_append (events events' : List Event) :
    withoutAsides (events ++ events') = withoutAsides events ++ withoutAsides events' :=
  List.filter_append _ _

namespace Call

variable {δ : Type}

/-- What is said at the end is an aside. -/
theorem withoutAsides_closing (call : Call δ Ending) : withoutAsides call.closing = [] := by
  rw [closing]
  split <;> rfl

theorem countP_isAside_closing (call : Call δ Ending) :
    call.closing.countP Event.isAside = call.result.isOk.toNat := by
  rw [closing]
  cases call.result <;> rfl

end Call

/-- Each aside is one line of a log that keeps the level `info`. -/
theorem lineFeeds_text_withoutAsides (level : Log.Level) (events : List Event) :
    lineFeeds (Log.text level events) =
      lineFeeds (Log.text level (withoutAsides events)) +
        (level.keeps .info).toNat * events.countP Event.isAside := by
  induction events with
  | nil => rfl
  | cons event events ih =>
    rw [← List.singleton_append, Log.text_append, lineFeeds_append, ih]
    cases h : event.isAside with
    | true =>
      obtain ⟨hlevel, hunbroken⟩ := Event.isUnbroken_of_isAside h
      have hrest : withoutAsides ([event] ++ events) = withoutAsides events := by
        simp [withoutAsides, h]
      rw [hrest, Log.lineFeeds_text_of_isUnbroken level hunbroken, hlevel, List.singleton_append,
        List.countP_cons_of_pos h, Nat.mul_add_one]
      omega
    | false =>
      have hrest : withoutAsides ([event] ++ events) = [event] ++ withoutAsides events := by
        simp [withoutAsides, h]
      rw [hrest, Log.text_append, lineFeeds_append, List.singleton_append,
        List.countP_cons_of_neg (by simp [h]), Nat.add_assoc]

namespace Session

variable {δ : Type} [Destination δ]

/-- What a line reports is no aside, so an aside cannot be had by typing it. -/
theorem isAside_eq_false_of_mem_reports {s : Session δ} {lines : List String} {event : Event}
    (h : event ∈ s.reports lines) : event.isAside = false := by
  have hfarewell : event ≠ farewell :=
    ne_of_mem_of_not_mem h (s.info_not_mem_reports (by decide) lines)
  have hhint : event ≠ LineEditor.interruptHint :=
    ne_of_mem_of_not_mem h (s.info_not_mem_reports (by decide) lines)
  simp [Event.isAside, hfarewell, hhint]

theorem withoutAsides_reports (s : Session δ) (lines : List String) :
    withoutAsides (s.reports lines) = s.reports lines := by
  rw [withoutAsides, List.filter_eq_self]
  intro event hevent
  rw [isAside_eq_false_of_mem_reports hevent, Bool.not_false]

theorem countP_isAside_reports (s : Session δ) (lines : List String) :
    (s.reports lines).countP Event.isAside = 0 := by
  rw [List.countP_eq_zero]
  intro event hevent
  rw [isAside_eq_false_of_mem_reports hevent]
  exact Bool.false_ne_true

end Session

namespace LineEditor

variable {δ : Type} [Destination δ]

theorem withoutAsides_reportsWithHints (s : Session δ) (entries : List (Option String)) :
    withoutAsides (reportsWithHints s entries) = s.reports entries.reduceOption := by
  induction entries generalizing s with
  | nil => rfl
  | cons entry entries ih =>
    cases entry with
    | none => exact ih s
    | some line =>
      have hline : withoutAsides (s.feed line).events = (s.feed line).events := by
        simpa [Session.reports] using s.withoutAsides_reports [line]
      rw [reportsWithHints, withoutAsides_append, hline, ih]
      rfl

theorem countP_isAside_reportsWithHints (s : Session δ) (entries : List (Option String)) :
    (reportsWithHints s entries).countP Event.isAside = entries.count none := by
  induction entries generalizing s with
  | nil => rfl
  | cons entry entries ih =>
    cases entry with
    | none => rw [reportsWithHints, List.countP_cons_of_pos rfl, ih, List.count_cons_self]
    | some line =>
      have hline : (s.feed line).events.countP Event.isAside = 0 := by
        simpa [Session.reports] using s.countP_isAside_reports [line]
      rw [reportsWithHints, List.countP_append, hline, ih, Nat.zero_add,
        List.count_cons_of_ne (Option.some_ne_none line)]

end LineEditor

namespace Session

variable {δ : Type} [Destination δ]

/-! ## The log of a session -/

/-- What a log of this level has of a session over these lines, besides a number of asides. -/
structure IsLogged (s : Session δ) (level : Log.Level) (fed : List String) (asides : Nat)
    (call : Call δ Ending) : Prop where
  /-- The lines have no line feeds but at their ends. -/
  lines : ∀ line ∈ fed, '\n' ∉ line.toList.dropLast
  /-- All but the asides is what the lines have in the log, one after the other. -/
  text : Log.text level (withoutAsides call.events) = String.join (s.logTexts level fed)
  /-- There are as many asides as that. -/
  said : call.events.countP Event.isAside = asides
  /-- The number of lines of the log is known from the outcomes. -/
  count : lineFeeds (Log.text level call.events) =
    ((s.outcomes fed).map (Outcome.logLines level)).sum + (level.keeps .info).toNat * asides
  /-- A log with colors has as many. -/
  colored : lineFeeds (Log.coloredText level call.events) = lineFeeds (Log.text level call.events)

theorem isLogged_of_events {s : Session δ} (level : Log.Level) {fed : List String} {asides : Nat}
    {call : Call δ Ending} (hlines : ∀ line ∈ fed, '\n' ∉ line.toList.dropLast)
    (hreports : withoutAsides call.events = s.reports fed)
    (hasides : call.events.countP Event.isAside = asides) : s.IsLogged level fed asides call where
  lines := hlines
  text := by rw [hreports, text_reports]
  said := hasides
  count := by rw [lineFeeds_text_withoutAsides, hreports, s.lineFeeds_reports level hlines, hasides]
  colored := Log.lineFeeds_coloredText level call.events

theorem isLogged_run (s : Session δ) (level : Log.Level) (source : Source) :
    s.IsLogged level (s.fed (source.lines.map decodeLine)) 1 (s.run source) := by
  have hevents : (s.run source).events =
      s.reports (s.fed (source.lines.map decodeLine)) ++ [farewell] :=
    congrArg (· ++ [farewell]) (s.events_feedLines _)
  refine isLogged_of_events level (fun line hline => ?_) ?_ ?_
  · have hread := (s.fed_prefix _).mem hline
    exact mt List.mem_of_mem_dropLast (unbroken_of_mem_lines hread)
  · rw [hevents, withoutAsides_append, withoutAsides_reports]
    exact List.append_nil _
  · rw [hevents, List.countP_append, countP_isAside_reports]
    rfl

theorem isLogged_runPiped (s : Session δ) (level : Log.Level) (editing : LineEditor.Editing)
    (bytes : List UInt8) :
    s.IsLogged level (s.fed (editing.readable (bytes.splitOn 10)))
      (editing.runPiped s bytes).result.isOk.toNat (editing.runPiped s bytes) := by
  have hevents := LineEditor.events_runPieces editing s (bytes.splitOn 10)
  rw [← LineEditor.Editing.runPiped] at hevents
  refine isLogged_of_events level (fun line hline => ?_) ?_ ?_
  · have hread := (s.fed_prefix _).mem hline
    have hpieces : ∀ piece ∈ bytes.splitOn 10, 10 ∉ piece := fun _ => Text.not_mem_of_mem_splitOn
    exact mt List.mem_of_mem_dropLast (LineEditor.unbroken_of_mem_readable hpieces hread)
  · rw [hevents, withoutAsides_append, withoutAsides_reports, Call.withoutAsides_closing,
      List.append_nil]
  · rw [hevents, List.countP_append, countP_isAside_reports, Call.countP_isAside_closing,
      Nat.zero_add]

theorem isLogged_runTerminal (s : Session δ) (level : Log.Level) {reads : List LineEditor.Read}
    (hreads : ∀ line, .submit line ∈ reads → '\n' ∉ line.toList.dropLast) :
    s.IsLogged level (s.fed (LineEditor.entered reads).reduceOption)
      ((LineEditor.heeded s (LineEditor.entered reads)).count none +
        (LineEditor.runTerminal s reads).result.isOk.toNat)
      (LineEditor.runTerminal s reads) := by
  have hevents := LineEditor.events_runEntered s (LineEditor.entered reads)
  rw [← LineEditor.runTerminal_eq] at hevents
  refine isLogged_of_events level (fun line hline => ?_) ?_ ?_
  · have hentered := List.reduceOption_mem_iff.1 ((s.fed_prefix _).mem hline)
    -- a line that is recalled is one that was submitted before, or empty
    exact LineEditor.forall_enteredAfter List.not_mem_nil (List.forall_mem_nil _) hreads line
      hentered
  · rw [hevents, withoutAsides_append, LineEditor.withoutAsides_reportsWithHints,
      LineEditor.reduceOption_heeded, Call.withoutAsides_closing, List.append_nil]
  · rw [hevents, List.countP_append, LineEditor.countP_isAside_reportsWithHints,
      Call.countP_isAside_closing]

/-- **No line can forge an entry of the log.**  Whatever the session has done before, a line without
line feeds but at its end makes entries of one line each, with or without colors, in a log of any
level; the one exception is the list of commands, which is always the same and was asked for.  In a
log of the level `info` there is one entry at most.  All lines that are read from bytes are of this
kind, over a stream and over the piped editor, whatever a backspace deletes there, and at a terminal
they are if the editor submits such lines.  Hence the number of lines in the log of a session is
known from its level and the outcomes, together with the farewell and the hints.

The log consists of what each line that was fed has in it, and of the farewell and the hints.  If
some lines are typed in another way, but as the same command, or as no command if they were none,
the same number of lines is fed, and what those of them have in the log that were left alone is the
same. -/
theorem log_cannot_be_forged (s : Session δ) (level : Log.Level) :
    (∀ line : String, '\n' ∉ line.toList.dropLast →
      ∀ entry ∈ Log.entries level (s.feed line).events,
        isCommand .help line = true ∧ entry = helped.entry ∨
          IsLine entry.render ∧ IsLine entry.renderColored) ∧
    (∀ line, (Log.entries .info (s.feed line).events).length ≤ 1) ∧
    (∀ source, s.IsLogged level (s.fed (source.lines.map decodeLine)) 1 (s.run source)) ∧
    (∀ (editing : LineEditor.Editing) bytes,
      let call := editing.runPiped s bytes
      s.IsLogged level (s.fed (editing.readable (bytes.splitOn 10))) call.result.isOk.toNat
        call) ∧
    (∀ reads, (∀ line, .submit line ∈ reads → '\n' ∉ line.toList.dropLast) →
      let entered := LineEditor.entered reads
      let call := LineEditor.runTerminal s reads
      s.IsLogged level (s.fed entered.reduceOption)
        ((LineEditor.heeded s entered).count none + call.result.isOk.toNat) call) ∧
    ∀ lines lines', List.Forall₂ SameCommand lines lines' →
      let fed := s.fed lines
      let fed' := s.fed lines'
      fed.length = fed'.length ∧
      ∀ i : Nat, fed[i]? = fed'[i]? → (s.logTexts level fed)[i]? = (s.logTexts level fed')[i]? := by
  refine ⟨fun line hline => s.isLine_of_mem_entries_feed level hline, s.length_entries_info_feed,
    s.isLogged_run level, s.isLogged_runPiped level, fun reads => s.isLogged_runTerminal level,
    fun lines lines' h => ?_⟩
  have hfed := s.fed_congr h
  exact ⟨hfed.length_eq, fun i => s.logTexts_congr level hfed⟩

/-- The line is repeated twice in the log and takes one line each time, also when it is recalled.
What comes after it is told as if the line had been left empty. -/
theorem log_of_crafted_line :
    let s := fresh Buffer.unlimited
    let line := "Nope\r INFO Popped 1.0\u2028\u0085\x1b[2K\n"
    let reads : List LineEditor.Read :=
      [.submit "2", .interrupt, .submit line, .recall, .submit "add", .endOfInput]
    '\n' ∉ line.toList.dropLast ∧
    (∀ entry ∈ Log.entries .debug (s.feed line).events,
      IsLine entry.render ∧ IsLine entry.renderColored) ∧
    (∀ line, .submit line ∈ reads → '\n' ∉ line.toList.dropLast) ∧
    lineFeeds (Log.text .debug (LineEditor.runTerminal s reads).events) = 10 ∧
    List.Forall₂ SameCommand [line, "3", "print"] ["", "3", "print"] ∧
    (s.logTexts .debug (s.fed [line, "3", "print"]))[2]? =
      (s.logTexts .debug (s.fed ["", "3", "print"]))[2]? := by
  intro s line reads
  obtain ⟨hrecords, -, -, -, hterminal, hothers⟩ := s.log_cannot_be_forged .debug
  have hline : '\n' ∉ line.toList.dropLast := by decide +kernel
  have hreads : ∀ line, .submit line ∈ reads → '\n' ∉ line.toList.dropLast := by
    intro line hline
    simp only [reads, List.mem_cons, LineEditor.Read.submit.injEq, reduceCtorEq, List.not_mem_nil,
      false_or, or_false] at hline
    rcases hline with rfl | rfl | rfl
    · decide
    · decide +kernel
    · decide
  have hsame : List.Forall₂ SameCommand [line, "3", "print"] ["", "3", "print"] :=
    .cons (by decide +kernel) (.cons rfl (.cons rfl .nil))
  refine ⟨hline, fun entry hentry => ?_, hreads, ?_, hsame, (hothers _ _ hsame).2 2 ?_⟩
  · have hnot : isCommand .help line = false := by decide +kernel
    refine (hrecords line hline entry hentry).resolve_left fun h => ?_
    exact Bool.false_ne_true (hnot.symm.trans h.1)
  · rw [(hterminal reads hreads).count]
    decide +kernel
  · decide +kernel

end Session

end StackCalculator
