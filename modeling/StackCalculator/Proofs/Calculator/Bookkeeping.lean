import Mathlib
import StackCalculator.Proofs.Calculator.Steps

/-!
# How long the history is

Four tables tell mutating commands from the others, and each is kept by itself: whether a command
counts as mutating, its keyword, the name of the record it leaves, and what `Calculator.apply` does.
This file says that they agree, and that the length of the history can therefore be worked out
without looking at it.

* `Calculator.history_of_apply` — **all that a command can do to the history**: it adds one record
  of its own name, it takes the last record off, or it leaves the whole state alone.
* `Calculator.step_cases` — the trace has one event for a step that is carried out, and it tells of
  the state afterwards; a step that is refused leaves no such event and no other mark.
* `Calculator.size_history_run` — hence each command that is carried out adds its
  `Command.growth` to the length.
* `Log.Entry.growth` — this number can be read off the entry that the trace has for it.

The main result is `Calculator.history_is_accounted_for`.
-/

set_option autoImplicit false

namespace StackCalculator

/-! ## What a command adds -/

/-- By how much the history grows with the command. -/
def Command.growth (command : Command) : ℤ :=
  if command.isMutating then 1 else if command = .undo then -1 else 0

namespace History

theorem eq_record_of_last? {h : History} {record : Record} (hlast : h.last? = some record) :
    h = h.dropLast.record record := by
  obtain ⟨_ | ⟨first, rest⟩⟩ := h
  · cases hlast
  · cases hlast
    rfl

theorem ne_record (h : History) (record : Record) : h ≠ h.record record := by
  intro heq
  have hsize := congrArg size heq
  rw [size_record] at hsize
  omega

theorem ne_record_record (h : History) (record record' : Record) :
    h ≠ (h.record record).record record' := by
  intro heq
  have hsize := congrArg size heq
  rw [size_record, size_record] at hsize
  omega

end History

namespace Calculator

/-- **All that a command can do to the history.** -/
theorem history_of_apply {c after : Calculator} {command : Command} {outcome : Outcome}
    (h : c.apply command = .ok (outcome, after)) :
    (command.isMutating = true ∧
        ∃ record, record.name = command.keyword ∧ after.history = c.history.record record) ∨
      (command = .undo ∧ ∃ record, c.history = after.history.record record) ∨
      command.isMutating = false ∧ command ≠ .undo ∧ after = c := by
  cases hmut : command.isMutating with
  | true =>
    obtain ⟨record, rfl, hhistory, -⟩ := exists_record_of_apply hmut h
    exact .inl ⟨rfl, record, record.keyword_command.symm, hhistory⟩
  | false =>
    by_cases hundo : command = .undo
    · subst hundo
      obtain ⟨record, hlast, -, hhistory, -⟩ := apply_undo_eq_ok_iff.1 h
      exact .inr (.inl ⟨rfl, record, hhistory ▸ History.eq_record_of_last? hlast⟩)
    · exact .inr (.inr ⟨rfl, hundo, eq_of_apply hmut hundo h⟩)

/-- The history is one record longer exactly after a mutating command, and that record has its
name. -/
theorem history_eq_record_iff {c after : Calculator} {command : Command} {outcome : Outcome}
    (h : c.apply command = .ok (outcome, after)) :
    ((∃ record, after.history = c.history.record record) ↔ command.isMutating = true) ∧
      ∀ record, after.history = c.history.record record → record.name = command.keyword := by
  rcases history_of_apply h with ⟨hmut, added, hname, hhistory⟩ | ⟨rfl, taken, hhistory⟩ |
    ⟨hmut, -, rfl⟩
  · refine ⟨⟨fun _ => hmut, fun _ => ⟨added, hhistory⟩⟩, fun record hrecord => ?_⟩
    have hsame := congrArg History.last? (hhistory.symm.trans hrecord)
    rw [History.last?_record, History.last?_record] at hsame
    rw [← Option.some.inj hsame, hname]
  · have hnone : ∀ record, after.history ≠ c.history.record record := by
      intro record
      rw [hhistory]
      exact after.history.ne_record_record taken record
    exact ⟨⟨fun ⟨record, hrecord⟩ => absurd hrecord (hnone record), nofun⟩,
      fun record hrecord => absurd hrecord (hnone record)⟩
  · have hnone := after.history.ne_record
    refine ⟨⟨fun ⟨record, hrecord⟩ => absurd hrecord (hnone record), fun htrue => ?_⟩,
      fun record hrecord => absurd hrecord (hnone record)⟩
    exact absurd (hmut.symm.trans htrue) nofun

/-- The history has lost its last record exactly after an `undo`. -/
theorem eq_record_history_iff {c after : Calculator} {command : Command} {outcome : Outcome}
    (h : c.apply command = .ok (outcome, after)) :
    (∃ record, c.history = after.history.record record) ↔ command = .undo := by
  rcases history_of_apply h with ⟨hmut, added, -, hhistory⟩ | ⟨rfl, taken, hhistory⟩ |
    ⟨-, hundo, rfl⟩
  · refine ⟨fun ⟨record, hrecord⟩ => ?_, ?_⟩
    · rw [hhistory] at hrecord
      exact absurd hrecord (c.history.ne_record_record added record)
    · rintro rfl
      exact absurd hmut nofun
  · exact ⟨fun _ => rfl, fun _ => ⟨taken, hhistory⟩⟩
  · exact ⟨fun ⟨record, hrecord⟩ => absurd hrecord (after.history.ne_record record),
      fun hrfl => absurd hrfl hundo⟩

theorem size_history_of_apply {c after : Calculator} {command : Command} {outcome : Outcome}
    (h : c.apply command = .ok (outcome, after)) :
    (after.history.size : ℤ) = c.history.size + command.growth := by
  rcases history_of_apply h with ⟨hmut, record, -, hhistory⟩ | ⟨rfl, record, hhistory⟩ |
    ⟨hmut, hundo, rfl⟩
  · rw [hhistory, History.size_record, Command.growth, if_pos hmut]
    exact Int.natCast_succ _
  · rw [hhistory, History.size_record]
    simp [Command.growth, Command.isMutating]
  · simp [Command.growth, hmut, hundo]

/-! ## What a step traces -/

/-- The command of the step, if it is carried out. -/
def carriedOut? (c : Calculator) (s : Step) : Option Command :=
  if (c.step s).1.applied then s.command.toOption else none

/-- What happens while a step is taken.  Whether failing counts as an outcome or as an error makes
no difference to it. -/
def stepEvents (c : Calculator) : Step → List Event
  | .line text => (c.execute text).events
  | .perform command | .apply command => (c.perform command).events
  | .undo => c.undo.events

/-- What happens to a command, given what is told if it fails. -/
theorem events_reply (c : Calculator) (command : Command)
    (onError : CommandError → List Event) :
    (c.reply command onError).events =
      match c.apply command with
      | .ok (_, after) => [.applied command after]
      | .error error => onError error := by
  rw [reply]
  cases c.apply command <;> rfl

theorem stepEvents_of_apply {c after : Calculator} {s : Step} {command : Command}
    {outcome : Outcome} (hcommand : s.command = .ok command)
    (h : c.apply command = .ok (outcome, after)) : c.stepEvents s = [.applied command after] := by
  cases s with
  | line text =>
    have hparse : Command.parse text = .ok command := hcommand
    simp only [stepEvents, execute, hparse, events_reply, h]
  | perform command' | apply command' =>
    cases hcommand
    simp only [stepEvents, perform, events_reply, h]
  | undo =>
    cases hcommand
    simp only [stepEvents, undo, perform, events_reply, h]

theorem stepEvents_of_error {c : Calculator} {s : Step} {error : CommandError}
    (h : s.command >>= c.apply = .error error) :
    ∀ event ∈ c.stepEvents s, ∃ line, event = .rejected line error := by
  have happly : ∀ {command : Command}, s.command = .ok command →
      c.apply command = .error error := by
    intro command hcommand
    rwa [hcommand] at h
  cases s with
  | line text =>
    cases hparse : Command.parse text with
    | error error' =>
      rw [show (Step.line text).command = _ from hparse] at h
      cases h
      simp [stepEvents, execute, hparse]
    | ok command => simp [stepEvents, execute, hparse, events_reply, happly hparse]
  | perform command | apply command =>
    simp [stepEvents, perform, events_reply, happly rfl]
  | undo => simp [stepEvents, undo, perform, events_reply, happly rfl]

/-- **What a step comes to**: either its command is carried out, and the one event tells of that, or
it leaves everything as it was. -/
theorem step_cases (c : Calculator) (s : Step) :
    (∃ command outcome, s.command = .ok command ∧
        c.apply command = .ok (outcome, (c.step s).2) ∧ c.carriedOut? s = some command ∧
        c.stepEvents s = [.applied command (c.step s).2]) ∨
      (c.step s).1.applied = false ∧ (c.step s).2 = c ∧ c.carriedOut? s = none ∧
        ∀ event ∈ c.stepEvents s, ∃ line error, event = .rejected line error := by
  cases hresult : s.command >>= c.apply with
  | ok reply =>
    obtain ⟨command, hcommand, happly⟩ := bind_eq_ok.1 hresult
    have happlied : (c.step s).1.applied = true :=
      applied_step_iff.2 ⟨command, reply.1, reply.2, hcommand, happly⟩
    refine .inl ⟨command, reply.1, hcommand, ?_, ?_, ?_⟩
    · rw [step_of_apply hcommand happly, happly]
    · rw [carriedOut?, happlied, hcommand]
      rfl
    · rw [step_of_apply hcommand happly, stepEvents_of_apply hcommand happly]
  | error error =>
    have happlied : (c.step s).1.applied = false := by
      rw [step_of_error hresult]
      exact s.applied_refuse error
    refine .inr ⟨happlied, step_of_not_applied happlied, ?_, fun event hevent => ?_⟩
    · rw [carriedOut?, happlied, if_neg Bool.false_ne_true]
    · obtain ⟨line, hline⟩ := stepEvents_of_error hresult event hevent
      exact ⟨line, error, hline⟩

/-! ## Runs -/

/-- The commands that are carried out on the way. -/
def carriedOut (c : Calculator) : List Step → List Command
  | [] => []
  | s :: steps => (c.carriedOut? s).toList ++ (c.step s).2.carriedOut steps

/-- What happens on the way. -/
def runEvents (c : Calculator) : List Step → List Event
  | [] => []
  | s :: steps => c.stepEvents s ++ (c.step s).2.runEvents steps

theorem size_history_step (c : Calculator) (s : Step) :
    ((c.step s).2.history.size : ℤ) =
      c.history.size + ((c.carriedOut? s).toList.map Command.growth).sum := by
  rcases c.step_cases s with ⟨command, outcome, -, happly, hcarried, -⟩ | ⟨-, hstep, hcarried, -⟩
  · rw [size_history_of_apply happly, hcarried]
    simp
  · rw [hstep, hcarried]
    simp

/-- **Each command that is carried out adds its part to the length of the history.** -/
theorem size_history_run (c : Calculator) (steps : List Step) :
    ((c.run steps).history.size : ℤ) =
      c.history.size + ((c.carriedOut steps).map Command.growth).sum := by
  induction steps generalizing c with
  | nil => simp [carriedOut]
  | cons s steps ih =>
    rw [run_cons, ih, size_history_step, carriedOut, List.map_append, List.sum_append, add_assoc]

end Calculator

theorem Command.sum_growth (commands : List Command) :
    (commands.map growth).sum = commands.countP isMutating - commands.count .undo := by
  induction commands with
  | nil => rfl
  | cons command commands ih =>
    rw [List.map_cons, List.sum_cons, ih, List.countP_cons, List.count_cons]
    cases command <;> simp [growth, isMutating] <;> omega

/-! ## What the trace tells -/

/-- One command of each kind. -/
def Command.kinds : List Command := .push (.signed false .zero) :: bare

namespace Log

theorem entries_debug (events : List Event) : entries .debug events = events.map Event.entry := by
  have hall : ∀ event ∈ events, Level.keeps .debug event.level = true := by
    intro event _
    cases event.level <;> rfl
  rw [entries, List.filter_eq_self.2 hall]

namespace Entry

/-- Whether the entry says that a command was carried out. -/
def isApplied (entry : Entry) : Bool := entry.message == "command applied"

/-- The value of the field of this name, if the entry has one. -/
def value? (entry : Entry) (name : String) : Option String :=
  (entry.fields.find? fun field => field.name == name).map Field.value

/-- By how much the history grows with the command of this keyword, written as in the log. -/
def growthOf? (word : String) : Option ℤ :=
  (Command.kinds.find? fun command => Text.quoted command.keyword == word).map Command.growth

/-- By how much the history grows with the command that the entry names. -/
def growth (entry : Entry) : ℤ := ((entry.value? "command").bind growthOf?).getD 0

end Entry

end Log

/-- In a keyword there is nothing to escape. -/
theorem quoted_keyword (command : Command) :
    Text.quoted command.keyword = "\"" ++ command.keyword ++ "\"" := by
  have hpush : Text.quoted "push" = "\"" ++ "push" ++ "\"" := by decide +kernel
  cases command with
  | push x => exact hpush
  | pop | clear | add | mul | neg | inv | undo | print | help | quit => decide +kernel

/-- The keywords tell the commands apart as far as this matters. -/
theorem growthOf?_keyword (command : Command) :
    Log.Entry.growthOf? (Text.quoted command.keyword) = some command.growth := by
  have hplain : Log.Entry.growthOf? (Text.quoted command.keyword) =
      (Command.kinds.find? fun kind =>
        "\"" ++ kind.keyword ++ "\"" == "\"" ++ command.keyword ++ "\"").map Command.growth := by
    simp only [Log.Entry.growthOf?, quoted_keyword]
  rw [hplain]
  cases command with
  | push x => rfl
  | pop | clear | add | mul | neg | inv | undo | print | help | quit => decide +kernel

theorem growth_entry_applied (command : Command) (after : Calculator) :
    (Event.applied command after).entry.growth = command.growth := by
  have hvalue : (Event.applied command after).entry.value? "command" =
      some (Text.quoted command.keyword) := rfl
  rw [Log.Entry.growth, hvalue, Option.bind_some, growthOf?_keyword, Option.getD_some]

namespace Calculator

/-- What a log keeps of a step about commands that are carried out. -/
theorem filter_entries_stepEvents (c : Calculator) (s : Step) :
    (Log.entries .debug (c.stepEvents s)).filter Log.Entry.isApplied =
      (c.carriedOut? s).toList.map fun command => (Event.applied command (c.step s).2).entry := by
  rw [Log.entries_debug]
  rcases c.step_cases s with ⟨command, outcome, -, -, hcarried, hevents⟩ |
    ⟨-, -, hcarried, hevents⟩
  · rw [hcarried, hevents]
    rfl
  · rw [hcarried, Option.toList_none, List.map_nil, List.filter_eq_nil_iff]
    intro entry hentry
    obtain ⟨event, hevent, rfl⟩ := List.mem_map.1 hentry
    obtain ⟨line, error, rfl⟩ := hevents event hevent
    exact nofun

/-- The log adds up to what the commands have added. -/
theorem sum_growth_entries (c : Calculator) (steps : List Step) :
    (((Log.entries .debug (c.runEvents steps)).filter Log.Entry.isApplied).map
      Log.Entry.growth).sum = ((c.carriedOut steps).map Command.growth).sum := by
  induction steps generalizing c with
  | nil => rfl
  | cons s steps ih =>
    rw [runEvents, Log.entries_append, List.filter_append, List.map_append, List.sum_append, ih,
      filter_entries_stepEvents, List.map_map, carriedOut, List.map_append, List.sum_append]
    simp only [Function.comp_def, growth_entry_applied]

/-- **The history is accounted for.**  In every state that can be reached, a step whose command is
carried out adds one record if the command is mutating, with the keyword of the command for its
name; it takes the last record off if the command is `undo`; and it changes nothing at all if it is
one of the others.  In each case there is one entry in the log for it, with the keyword and the two
sizes afterwards.  A step that is not carried out changes nothing and has no such entry.  Hence the
records are as many as the mutating commands that were carried out, less the `undo`s, and these
entries alone tell how many that is. -/
theorem history_is_accounted_for (steps : List Step) (s : Step) :
    let before := fresh.run steps
    let after := fresh.run (steps ++ [s])
    let told := (Log.entries .debug (before.stepEvents s)).filter Log.Entry.isApplied
    let commands := fresh.carriedOut steps
    (∀ command, s.command = .ok command → (before.step s).1.applied = true →
      ((∃ record, after.history = before.history.record record) ↔ command.isMutating = true) ∧
      (∀ record, after.history = before.history.record record → record.name = command.keyword) ∧
      ((∃ record, before.history = after.history.record record) ↔ command = .undo) ∧
      (command = .print ∨ command = .help ∨ command = .quit → after = before) ∧
      told = [⟨.debug, "command applied",
        [⟨"command", Text.quoted command.keyword⟩, ⟨"depth", toString after.stack.size⟩,
         ⟨"history", toString after.history.size⟩]⟩]) ∧
    ((before.step s).1.applied = false → after = before ∧ told = []) ∧
    before.history.size + commands.count .undo = commands.countP Command.isMutating ∧
    (before.history.size : ℤ) =
      (((Log.entries .debug (fresh.runEvents steps)).filter Log.Entry.isApplied).map
        Log.Entry.growth).sum := by
  intro before after told commands
  have hafter : after = (before.step s).2 := fresh.run_append steps [s]
  have htold : told = _ := before.filter_entries_stepEvents s
  have hsize : (before.history.size : ℤ) = (commands.map Command.growth).sum :=
    (fresh.size_history_run steps).trans (zero_add _)
  refine ⟨fun command hcommand happlied => ?_, fun hrefused => ?_, ?_, ?_⟩
  · rcases before.step_cases s with ⟨command', outcome, hcommand', happly, hcarried, -⟩ |
      ⟨hrefused, -⟩
    · obtain rfl := Except.ok.inj (hcommand.symm.trans hcommand')
      rw [← hafter] at happly htold
      obtain ⟨hadds, hname⟩ := history_eq_record_iff happly
      refine ⟨hadds, hname, eq_record_history_iff happly, fun hidle => ?_, ?_⟩
      · have hkind : command.isMutating = false ∧ command ≠ .undo := by
          rcases hidle with rfl | rfl | rfl <;> decide
        exact eq_of_apply hkind.1 hkind.2 happly
      · rw [htold, hcarried]
        rfl
    · exact absurd (happlied.symm.trans hrefused) nofun
  · rcases before.step_cases s with ⟨command', outcome, hcommand', happly, hcarried, -⟩ |
      ⟨-, hsame, hcarried, -⟩
    · have happlied := applied_step_iff.2 ⟨command', outcome, _, hcommand', happly⟩
      exact absurd (happlied.symm.trans hrefused) nofun
    · exact ⟨hafter.trans hsame, by rw [htold, hcarried]; rfl⟩
  · rw [Command.sum_growth] at hsize
    omega
  · rw [hsize, sum_growth_entries]

/-- The second `undo` takes back the push, since the line before it is no command. -/
theorem undo_leaves_no_records :
    let steps : List Step := [.line " Push 2 ", .apply .neg, .undo, .line "undo it"]
    (Step.line "UNDO").command = .ok .undo ∧
    ((fresh.run steps).step (.line "UNDO")).1.applied = true ∧
    (Log.entries .debug ((fresh.run steps).stepEvents (.line "UNDO"))).filter
        Log.Entry.isApplied =
      [⟨.debug, "command applied", [⟨"command", "\"undo\""⟩, ⟨"depth", "0"⟩, ⟨"history", "0"⟩]⟩] ∧
    (fresh.run steps).history.size + 1 = 2 := by
  intro steps
  have hcommand : (Step.line "UNDO").command = .ok .undo := by decide +kernel
  have happlied : ((fresh.run steps).step (.line "UNDO")).1.applied = true := by decide +kernel
  obtain ⟨hstep, -, hsize, -⟩ := history_is_accounted_for steps (.line "UNDO")
  refine ⟨hcommand, happlied, ?_, ?_⟩
  · rw [(hstep .undo hcommand happlied).2.2.2.2]
    decide +kernel
  · have hcount : (fresh.carriedOut steps).count .undo = 1 ∧
        (fresh.carriedOut steps).countP Command.isMutating = 2 := by decide +kernel
    rwa [hcount.1, hcount.2] at hsize

end Calculator

end StackCalculator
