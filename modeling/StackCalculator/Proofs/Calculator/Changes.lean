import StackCalculator.Proofs.Calculator.Steps

/-!
# The changes in force

Along a run, a mutating command that is carried out makes a change, and an `undo` that is carried
out takes back the most recent change that is still in force.  `changes` keeps track of that by
looking at the answers, without ever looking at the calculator's own history.

`Made changes c` says that the state `c` comes from the fresh calculator by these changes *alone*,
each made in the state that the ones before it had led to.  The main statement, `made_changes`, is
that every run ends in a state of this form.  Since the `undo`s are gone from it, what is to be
shown of every state that can be reached need only be shown to survive mutating commands.

This is where the operands in the records earn their keep: `Made.step` takes an `undo` back to the
state before the last change by `Calculator.apply_undo_of_apply`.
-/

set_option autoImplicit false

namespace StackCalculator

/-- A change that is in force. -/
structure Change where
  /-- The step that made it. -/
  step : Step
  /-- The command of that step. -/
  command : Command
  /-- The state it was made in. -/
  before : Calculator

namespace Calculator

/-- The changes in force after one more step, given those before it, the most recent first. -/
def changesAfter (c : Calculator) (changes : List Change) (s : Step) : List Change :=
  if (c.step s).1.applied then
    match s.command with
    | .ok .undo => changes.tail
    | .ok command => if command.isMutating then ⟨s, command, c⟩ :: changes else changes
    | .error _ => changes
  else changes

/-- The changes in force after some steps, given those before them. -/
def changesFrom (c : Calculator) (changes : List Change) : List Step → List Change
  | [] => changes
  | s :: steps => changesFrom (c.step s).2 (c.changesAfter changes s) steps

/-- The changes in force after some steps of a fresh calculator, the most recent first. -/
def changes (steps : List Step) : List Change := changesFrom .fresh [] steps

/-! ## What one step does to them -/

theorem changesAfter_of_not_applied {c : Calculator} {s : Step} (changes : List Change)
    (h : (c.step s).1.applied = false) : c.changesAfter changes s = changes := by
  rw [changesAfter, h, if_neg Bool.false_ne_true]

theorem changesAfter_undo {c after : Calculator} {s : Step} {outcome : Outcome}
    (changes : List Change) (hs : s.command = .ok .undo)
    (h : c.apply .undo = .ok (outcome, after)) : c.changesAfter changes s = changes.tail := by
  rw [changesAfter, if_pos (applied_step_iff.2 ⟨_, _, _, hs, h⟩), hs]

theorem changesAfter_of_mutating {c after : Calculator} {s : Step} {command : Command}
    {outcome : Outcome} (changes : List Change) (hs : s.command = .ok command)
    (hmut : command.isMutating = true) (h : c.apply command = .ok (outcome, after)) :
    c.changesAfter changes s = ⟨s, command, c⟩ :: changes := by
  rw [changesAfter, if_pos (applied_step_iff.2 ⟨_, _, _, hs, h⟩), hs]
  cases command with
  | undo | print | help | quit => exact absurd hmut nofun
  | push x | pop | clear | add | mul | neg | inv => rfl

theorem changesAfter_of_idle {c after : Calculator} {s : Step} {command : Command}
    {outcome : Outcome} (changes : List Change) (hs : s.command = .ok command)
    (hmut : command.isMutating = false) (hundo : command ≠ .undo)
    (h : c.apply command = .ok (outcome, after)) : c.changesAfter changes s = changes := by
  rw [changesAfter, if_pos (applied_step_iff.2 ⟨_, _, _, hs, h⟩), hs]
  cases command with
  | undo => exact absurd rfl hundo
  | print | help | quit => rfl
  | push x | pop | clear | add | mul | neg | inv => exact absurd hmut nofun

theorem changesFrom_append (c : Calculator) (changes : List Change) (steps steps' : List Step) :
    c.changesFrom changes (steps ++ steps')
      = (c.run steps).changesFrom (c.changesFrom changes steps) steps' := by
  induction steps generalizing c changes with
  | nil => rfl
  | cons s steps ih => rw [List.cons_append, changesFrom, ih, changesFrom, run_cons]

theorem changes_append_singleton (steps : List Step) (s : Step) :
    changes (steps ++ [s]) = (fresh.run steps).changesAfter (changes steps) s := by
  rw [changes, changesFrom_append]
  rfl

/-! ## States made by changes alone -/

/-- The state comes from the fresh calculator by these changes alone, the most recent first, each of
them made in the state that those before it lead to. -/
inductive Made : List Change → Calculator → Prop
  | nil : Made [] fresh
  | cons {changes : List Change} {c after : Calculator} {s : Step} {command : Command}
      {outcome : Outcome} (hmade : Made changes c) (hs : s.command = .ok command)
      (hmut : command.isMutating = true) (happly : c.apply command = .ok (outcome, after)) :
      Made (⟨s, command, c⟩ :: changes) after

/-- An `undo` that is carried out takes back the last change. -/
theorem Made.apply_undo {changes : List Change} {c after : Calculator} {outcome : Outcome}
    (h : Made changes c) (hundo : c.apply .undo = .ok (outcome, after)) :
    ∃ change rest, changes = change :: rest ∧ Made rest after ∧ after = change.before ∧
      outcome = .done ("Undid " ++ change.command.keyword) := by
  cases h with
  | nil => exact absurd hundo nofun
  | cons hmade hs hmut happly =>
    rw [apply_undo_of_apply hmut happly] at hundo
    cases hundo
    exact ⟨_, _, rfl, hmade, rfl, rfl⟩

/-- **One step keeps track.** -/
theorem Made.step {changes : List Change} {c : Calculator} (h : Made changes c) (s : Step) :
    Made (c.changesAfter changes s) (c.step s).2 := by
  cases happlied : (c.step s).1.applied with
  | false => rwa [changesAfter_of_not_applied changes happlied, step_of_not_applied happlied]
  | true =>
    obtain ⟨command, outcome, after, hs, happly⟩ := applied_step_iff.1 happlied
    rw [step_of_apply hs happly]
    cases hmut : command.isMutating with
    | true =>
      rw [changesAfter_of_mutating changes hs hmut happly]
      exact .cons h hs hmut happly
    | false =>
      by_cases hundo : command = .undo
      · subst hundo
        obtain ⟨change, rest, rfl, hrest, -, -⟩ := h.apply_undo happly
        rwa [changesAfter_undo _ hs happly]
      · rw [changesAfter_of_idle changes hs hmut hundo happly, eq_of_apply hmut hundo happly]
        exact h

theorem Made.run {changes : List Change} {c : Calculator} (h : Made changes c)
    (steps : List Step) : Made (c.changesFrom changes steps) (c.run steps) := by
  induction steps generalizing changes c with
  | nil => exact h
  | cons s steps ih => exact ih (h.step s)

/-- **Every state that can be reached is made by the changes in force alone.** -/
theorem made_changes (steps : List Step) : Made (changes steps) (fresh.run steps) :=
  Made.nil.run steps

/-! ## Changes and records -/

/-- The history has one record for each change, of the same kind. -/
theorem Made.map_command {changes : List Change} {c : Calculator} (h : Made changes c) :
    c.history.newestFirst.map Record.command = changes.map Change.command := by
  induction h with
  | nil => rfl
  | cons hmade hs hmut happly ih =>
    obtain ⟨record, hcommand, hhistory, -⟩ := exists_record_of_apply hmut happly
    rw [hhistory, History.record, List.map_cons, hcommand, ih, List.map_cons]

theorem Made.size_history {changes : List Change} {c : Calculator} (h : Made changes c) :
    c.history.size = changes.length := by
  have := congrArg List.length h.map_command
  simpa [History.size] using this

end Calculator

end StackCalculator
