import StackCalculator.Proofs.Log.Outcomes

/-!
# What the lines of a session have in the log

A line in which something stands is reported twice, by a trace and by its outcome, and other lines
are not reported.  So it is known from the outcomes of the lines how many lines the log has, and
which part of it is about which line of the session.

* `Session.isLine_of_mem_entries_feed` — every entry that a line makes is one line of the log,
  except for the list of commands.
* `Session.lineFeeds_reports` — **the number of lines in the log is known from its level and the
  outcomes.**
* `Session.logTexts` — the log, cut up by the lines that it is about.
* `Session.logTexts_congr` — **what is typed in a line shows in its own part of the log only.**  The
  rest of the log depends on the command of the line, or on that it has none, and not on its text.
-/

set_option autoImplicit false

namespace StackCalculator

/-- The report of an outcome. -/
def Outcome.report (outcome : Outcome) : Event := .report outcome.severity outcome.message

theorem Outcome.entry_report (outcome : Outcome) : outcome.report.entry = outcome.entry := rfl

/-- The number of lines that a line has in a log: one for its trace and those that tell its outcome,
as far as the log keeps them. -/
def Outcome.logLines (level : Log.Level) (outcome : Outcome) : Nat :=
  (level.keeps .debug).toNat + (level.keeps (.ofSeverity outcome.severity)).toNat * outcome.height

/-- What is told of a failure makes no difference to the state afterwards. -/
theorem Calculator.after_reply (c : Calculator) (command : Command)
    (onError onError' : CommandError → List Event) :
    (c.reply command onError).after = (c.reply command onError').after := by
  rw [reply, reply]
  cases c.apply command with
  | error error => rfl
  | ok result => rfl

namespace Session

variable {δ : Type} [Destination δ]

/-! ## One line -/

/-- What a line reports, if something stands in it. -/
theorem exists_events_feed (s : Session δ) {line : String} (hfilled : isFilled line = true)
    (hline : '\n' ∉ line.toList.dropLast) :
    ∃ trace : Event, (s.feed line).events = [trace, (s.calculator.execute line).outcome.report] ∧
      trace.level = .debug ∧ trace.entry.IsUnbroken := by
  -- what is executed and traced is the normalised line
  have hnormalized : '\n' ∉ (String.ofList (Text.normalize line.toList)).toList.dropLast := by
    rw [String.toList_ofList]
    exact mt List.mem_of_mem_dropLast (Text.lineFeed_not_mem_normalize hline)
  obtain ⟨trace, htrace, hunbroken⟩ := s.calculator.exists_events_execute hnormalized
  have hmem : trace ∈
      (s.calculator.execute (String.ofList (Text.normalize line.toList))).events := by
    rw [htrace]
    exact List.mem_singleton_self trace
  refine ⟨trace, ?_, Calculator.level_of_mem_execute hmem, hunbroken⟩
  rw [s.feed_of_not_blank (isFilled_iff.1 hfilled), events_settle, htrace]
  rfl

theorem events_feed_of_blank (s : Session δ) {line : String} (h : ¬ isFilled line = true) :
    (s.feed line).events = [] := by
  rw [isFilled_iff, not_not] at h
  rw [s.feed_of_blank h]

/-- **Every entry that a line makes is one line of the log**, unless it is the list of commands,
which was asked for then. -/
theorem isLine_of_mem_entries_feed (s : Session δ) (level : Log.Level) {line : String}
    (hline : '\n' ∉ line.toList.dropLast) :
    ∀ entry ∈ Log.entries level (s.feed line).events,
      isCommand .help line = true ∧ entry = helped.entry ∨
        IsLine entry.render ∧ IsLine entry.renderColored := by
  intro entry hentry
  obtain ⟨event, hevent, rfl⟩ := List.mem_map.1 hentry
  replace hevent := List.mem_of_mem_filter hevent
  by_cases hfilled : isFilled line = true
  · obtain ⟨trace, hevents, -, hunbroken⟩ := s.exists_events_feed hfilled hline
    rw [hevents, List.mem_pair] at hevent
    rcases hevent with rfl | rfl
    · exact .inr ⟨hunbroken.isLine_render, hunbroken.isLine_renderColored⟩
    · rcases s.calculator.outcome_execute_cases hline with ⟨hhelp, houtcome⟩ | hmessage
      · exact .inl ⟨hhelp, congrArg Outcome.entry houtcome⟩
      · have hunbroken := Outcome.isUnbroken_entry hmessage
        exact .inr ⟨hunbroken.isLine_render, hunbroken.isLine_renderColored⟩
  · rw [s.events_feed_of_blank hfilled] at hevent
    exact absurd hevent List.not_mem_nil

/-- Not more than the outcome is in a log of the level `info`. -/
theorem length_entries_info_feed (s : Session δ) (line : String) :
    (Log.entries .info (s.feed line).events).length ≤ 1 := by
  by_cases hfilled : isFilled line = true
  · rw [s.feed_of_not_blank (isFilled_iff.1 hfilled), events_settle, entries_reported,
      Outcome.entries, List.length_map]
    exact List.length_filter_le _ _
  · rw [s.events_feed_of_blank hfilled]
    exact Nat.zero_le 1

/-- The outcomes of the lines in which something stands. -/
def outcomes (s : Session δ) (lines : List String) : List Outcome :=
  s.calculator.outcomes (lines.filter isFilled)

theorem outcomes_cons (s : Session δ) (line : String) (lines : List String) :
    s.outcomes (line :: lines) =
      (if isFilled line then [(s.calculator.execute line).outcome] else []) ++
        (s.feed line).session.outcomes lines := by
  rw [outcomes, outcomes, calculator_feed]
  split_ifs with hfilled
  · rw [List.filter_cons_of_pos hfilled]
    rfl
  · rw [isFilled_iff, not_not] at hfilled
    rw [List.filter_cons_of_neg (by simp [isFilled, hfilled]), Calculator.execute,
      parse_of_blank hfilled]
    rfl

/-- The number of lines that a line has in a log is known from its outcome. -/
theorem lineFeeds_feed (s : Session δ) (level : Log.Level) {line : String}
    (hfilled : isFilled line = true) (hline : '\n' ∉ line.toList.dropLast) :
    lineFeeds (Log.text level (s.feed line).events) =
      (s.calculator.execute line).outcome.logLines level := by
  obtain ⟨trace, hevents, hlevel, hunbroken⟩ := s.exists_events_feed hfilled hline
  have houtcome := (s.calculator.outcome_execute_cases hline).imp_left And.right
  rw [hevents, ← List.singleton_append, Log.text_append, lineFeeds_append,
    Log.lineFeeds_text_of_isUnbroken level hunbroken, hlevel, Log.lineFeeds_text_singleton,
    Outcome.entry_report, Outcome.lineFeeds_entry houtcome]
  rfl

/-! ## Lines one after the other -/

/-- **The number of lines in the log is known from its level and the outcomes.** -/
theorem lineFeeds_reports (s : Session δ) (level : Log.Level) {lines : List String}
    (hlines : ∀ line ∈ lines, '\n' ∉ line.toList.dropLast) :
    lineFeeds (Log.text level (s.reports lines)) =
      ((s.outcomes lines).map (Outcome.logLines level)).sum := by
  induction lines generalizing s with
  | nil => rfl
  | cons line lines ih =>
    obtain ⟨hline, hlines⟩ := List.forall_mem_cons.1 hlines
    have hfirst : lineFeeds (Log.text level (s.feed line).events) =
        ((if isFilled line then [(s.calculator.execute line).outcome] else []).map
          (Outcome.logLines level)).sum := by
      split_ifs with hfilled
      · rw [s.lineFeeds_feed level hfilled hline, List.map_singleton, List.sum_singleton]
      · rw [s.events_feed_of_blank hfilled]
        rfl
    rw [reports, Log.text_append, lineFeeds_append, ih _ hlines, outcomes_cons, List.map_append,
      List.sum_append, hfirst]

/-- What each of the lines has in the log. -/
def logTexts (s : Session δ) (level : Log.Level) : List String → List String
  | [] => []
  | line :: lines =>
    Log.text level (s.feed line).events :: (s.feed line).session.logTexts level lines

/-- Nothing else is in the log. -/
theorem text_reports (s : Session δ) (level : Log.Level) (lines : List String) :
    Log.text level (s.reports lines) = String.join (s.logTexts level lines) := by
  induction lines generalizing s with
  | nil => rfl
  | cons line lines ih => rw [reports, Log.text_append, ih, logTexts, String.join_cons]

/-! ## What is typed in a line -/

/-- The lines are the same command, or neither of them is any. -/
def SameCommand (line line' : String) : Prop :=
  (Command.parse line).toOption = (Command.parse line').toOption

instance (line line' : String) : Decidable (SameCommand line line') :=
  inferInstanceAs (Decidable (_ = _))

section SameCommand

variable {line line' : String} (h : SameCommand line line')

include h

theorem SameCommand.isCommand_eq (command : Command) :
    isCommand command line = isCommand command line' := by
  rw [isCommand, isCommand, h]

theorem SameCommand.after_execute_eq (c : Calculator) :
    (c.execute line).after = (c.execute line').after := by
  have hafter : ∀ line : String, (c.execute line).after =
      (Command.parse line).toOption.elim c fun command => (c.perform command).after := by
    intro line
    rw [Calculator.execute]
    cases Command.parse line with
    | error error => rfl
    | ok command => exact c.after_reply command _ _
  rw [hafter, hafter, h]

/-- What a line leaves behind does not depend on how it was typed. -/
theorem SameCommand.session_feed_eq (s : Session δ) :
    (s.feed line).session = (s.feed line').session := by
  have hparts : ∀ line, (s.feed line).session =
      ⟨(s.calculator.execute line).after,
        if isCommand .print line then (Destination.writeLine s.out s.calculator.stack.listing).2
        else s.out⟩ := by
    intro line
    rw [← calculator_feed, ← out_feed]
  rw [hparts, hparts, h.after_execute_eq, h.isCommand_eq]

theorem SameCommand.stopsOn_eq (s : Session δ) : s.stopsOn line = s.stopsOn line' := by
  rw [stopsOn, stopsOn, writeFailure?, writeFailure?, h.isCommand_eq, h.isCommand_eq]

end SameCommand

variable {lines lines' : List String}

/-- Neither does the number of lines that are fed. -/
theorem fed_congr (s : Session δ) (h : List.Forall₂ SameCommand lines lines') :
    List.Forall₂ SameCommand (s.fed lines) (s.fed lines') := by
  induction h generalizing s with
  | nil => exact .nil
  | @cons line line' lines lines' hline _ ih =>
    rw [fed, fed, ← hline.stopsOn_eq, ← hline.session_feed_eq]
    refine .cons hline ?_
    split
    · exact .nil
    · exact ih _

/-- **What is typed in a line shows in its own part of the log only.** -/
theorem logTexts_congr (s : Session δ) (level : Log.Level)
    (h : List.Forall₂ SameCommand lines lines') {i : Nat} (hi : lines[i]? = lines'[i]?) :
    (s.logTexts level lines)[i]? = (s.logTexts level lines')[i]? := by
  induction h generalizing s i with
  | nil => rfl
  | @cons line line' lines lines' hline _ ih =>
    rw [logTexts, logTexts, ← hline.session_feed_eq]
    cases i with
    | zero =>
      obtain rfl : line = line' := by simpa using hi
      rfl
    | succ i => simpa using ih _ (by simpa using hi)

end Session

end StackCalculator
