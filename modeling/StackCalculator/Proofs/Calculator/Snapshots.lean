import StackCalculator.Proofs.Calculator.Changes

/-!
# Undoing with operands is undoing with snapshots

`SnapshotCalculator` is the calculator one would write without a thought for memory: before each
change it puts the whole stack aside, and `undo` fetches it back.  It has no records and takes
nothing back by computation, so it is right by inspection.  It knows the commands only through
`Command.act`, which has neither history nor records.

* `SnapshotCalculator.ofChanges` — the state that the snapshot calculator is in when the calculator
  is in a given state with given changes in force.
* `SnapshotCalculator.step_ofChanges` — the simulation: from corresponding states, a step gives the
  same answer and leads to corresponding states.
* `Calculator.undo_agrees_with_snapshots` — **the main result**: along every run the two calculators
  answer alike, hold the same stack and have equally much to undo; and one, two, three `undo`s in a
  row lead back, history and all, to the states in which the last, last but one, last but two change
  still in force was made.
-/

set_option autoImplicit false

namespace StackCalculator

/-- A calculator that keeps a copy of the whole stack for each change that can be undone. -/
structure SnapshotCalculator where
  /-- The values. -/
  stack : Stack
  /-- The stack as it was before each change, with the keyword of the command that made the change,
  the most recent first. -/
  saved : List (String × Stack)

namespace SnapshotCalculator

/-- The snapshot calculator that has done nothing yet. -/
def fresh : SnapshotCalculator := ⟨.empty, []⟩

/-- Carry out a command.  A mutating one saves the stack first, and `undo` puts the stack that was
saved last back in place. -/
def apply (k : SnapshotCalculator) (command : Command) :
    Except CommandError (Outcome × SnapshotCalculator) :=
  match command, k.saved with
  | .undo, [] => .error .nothingToUndo
  | .undo, (keyword, stack) :: saved => .ok (.done ("Undid " ++ keyword), ⟨stack, saved⟩)
  | command, saved =>
    (command.act k.stack).map fun (outcome, stack) =>
      (outcome, ⟨stack, if command.isMutating then (command.keyword, k.stack) :: saved else saved⟩)

/-- What a step comes to: its answer and the state afterwards. -/
def step (k : SnapshotCalculator) (s : Step) : Answer × SnapshotCalculator :=
  match s.command with
  | .error error => (s.refuse error, k)
  | .ok command =>
    match k.apply command with
    | .ok (outcome, after) => (.ok outcome, after)
    | .error error => (s.refuse error, k)

/-- The answer to every step, with the state after it. -/
def trace (k : SnapshotCalculator) : List Step → List (Answer × SnapshotCalculator)
  | [] => []
  | s :: steps => k.step s :: trace (k.step s).2 steps

/-! ## The simulation -/

/-- The snapshot that belongs to a change. -/
def ofChange (change : Change) : String × Stack := (change.command.keyword, change.before.stack)

/-- The state that corresponds to a state of the calculator and the changes in force. -/
def ofChanges (c : Calculator) (changes : List Change) : SnapshotCalculator :=
  ⟨c.stack, changes.map ofChange⟩

theorem apply_of_ne_undo (k : SnapshotCalculator) {command : Command} (h : command ≠ .undo) :
    k.apply command = (command.act k.stack).map fun (outcome, stack) =>
      (outcome, ⟨stack,
        if command.isMutating then (command.keyword, k.stack) :: k.saved else k.saved⟩) := by
  cases command with
  | undo => exact absurd rfl h
  | push x | pop | clear | add | mul | neg | inv | print | help | quit => rfl

/-- A command that fails fails alike.  For `undo` this takes a state that can be reached: there the
records can be reverted, so that `undo` fails for want of records only. -/
theorem apply_ofChanges_of_error {changes : List Change} {c : Calculator} {command : Command}
    {error : CommandError} (hmade : Calculator.Made changes c)
    (h : c.apply command = .error error) :
    (ofChanges c changes).apply command = .error error := by
  by_cases hundo : command = .undo
  · subst hundo
    cases hmade with
    | nil => cases h; rfl
    | cons _ _ hmut happly =>
      rw [Calculator.apply_undo_of_apply hmut happly] at h
      exact absurd h nofun
  · have hact : command.act c.stack = .error error := by rw [← c.apply_bare hundo, h]; rfl
    rw [apply_of_ne_undo _ hundo, show (ofChanges c changes).stack = c.stack from rfl, hact]
    rfl

/-- A command that is no `undo` and is carried out is carried out alike. -/
theorem apply_ofChanges_of_ne_undo {c after : Calculator} {command : Command} {outcome : Outcome}
    (changes : List Change) (hundo : command ≠ .undo)
    (h : c.apply command = .ok (outcome, after)) :
    (ofChanges c changes).apply command = .ok (outcome, ⟨after.stack,
      if command.isMutating then (command.keyword, c.stack) :: changes.map ofChange
      else changes.map ofChange⟩) := by
  have hact : command.act c.stack = .ok (outcome, after.stack) := by
    rw [← c.apply_bare hundo, h]
    rfl
  rw [apply_of_ne_undo _ hundo, show (ofChanges c changes).stack = c.stack from rfl, hact]
  rfl

theorem step_of_apply {k after : SnapshotCalculator} {s : Step} {command : Command}
    {outcome : Outcome} (hs : s.command = .ok command)
    (h : k.apply command = .ok (outcome, after)) : k.step s = (.ok outcome, after) := by
  simp only [step, hs, h]

/-- **The simulation.**  From corresponding states, a step gives the same answer and leads to
corresponding states. -/
theorem step_ofChanges {changes : List Change} {c : Calculator} (hmade : Calculator.Made changes c)
    (s : Step) :
    (ofChanges c changes).step s =
      ((c.step s).1, ofChanges (c.step s).2 (c.changesAfter changes s)) := by
  cases hresult : s.command >>= c.apply with
  | error error =>
    have hkeep : c.changesAfter changes s = changes := by
      refine Calculator.changesAfter_of_not_applied changes ?_
      rw [Calculator.step_of_error hresult, s.applied_refuse]
    rw [hkeep, Calculator.step_of_error hresult, step]
    cases hs : s.command with
    | error error' => rw [hs] at hresult; cases hresult; rfl
    | ok command =>
      rw [hs] at hresult
      simp only [apply_ofChanges_of_error hmade hresult]
  | ok reply =>
    obtain ⟨outcome, after⟩ := reply
    obtain ⟨command, hs, happly⟩ := bind_eq_ok.1 hresult
    rw [Calculator.step_of_apply hs happly]
    by_cases hundo : command = .undo
    · subst hundo
      obtain ⟨change, rest, rfl, -, rfl, rfl⟩ := hmade.apply_undo happly
      rw [Calculator.changesAfter_undo _ hs happly]
      exact step_of_apply hs rfl
    · rw [step_of_apply hs (apply_ofChanges_of_ne_undo changes hundo happly)]
      cases hmut : command.isMutating with
      | true => rw [Calculator.changesAfter_of_mutating changes hs hmut happly]; rfl
      | false => rw [Calculator.changesAfter_of_idle changes hs hmut hundo happly]; rfl

/-- What can be seen of the calculator along a run: answers, stacks, and how much can be undone. -/
theorem map_trace_ofChanges {changes : List Change} {c : Calculator}
    (hmade : Calculator.Made changes c) (steps : List Step) :
    ((ofChanges c changes).trace steps).map (fun (answer, k) => (answer, k.stack, k.saved.length)) =
      (c.trace steps).map fun (answer, c) => (answer, c.stack, c.history.size) := by
  induction steps generalizing changes c with
  | nil => rfl
  | cons s steps ih =>
    have hmade' := hmade.step s
    have hsize : (c.changesAfter changes s).length = (c.step s).2.history.size :=
      hmade'.size_history.symm
    simp only [trace, Calculator.trace, List.map_cons, step_ofChanges hmade s, ih hmade']
    simp [ofChanges, hsize]

end SnapshotCalculator

namespace Calculator

/-! ## Several undos in a row -/

theorem step_undo_of_made {change : Change} {changes : List Change} {c : Calculator}
    (h : Made (change :: changes) c) :
    (c.step .undo).2 = change.before ∧ Made changes change.before := by
  cases h with
  | cons hmade _ hmut happly =>
    rw [step_of_apply (s := .undo) rfl (apply_undo_of_apply hmut happly)]
    exact ⟨rfl, hmade⟩

/-- The states in which the changes in force were made are those that more and more `undo`s lead
back to. -/
theorem Made.map_before {changes : List Change} {c : Calculator} (h : Made changes c) :
    changes.map Change.before =
      (List.range changes.length).map fun k => c.run (List.replicate (k + 1) .undo) := by
  induction changes generalizing c with
  | nil => rfl
  | cons change changes ih =>
    obtain ⟨hstep, hmade⟩ := step_undo_of_made h
    have hrun : ∀ k, c.run (List.replicate (k + 1) .undo)
        = change.before.run (List.replicate k .undo) := by
      intro k
      rw [List.replicate_succ, run_cons, hstep]
    rw [List.map_cons, ih hmade, List.length_cons, List.range_succ_eq_map, List.map_cons,
      List.map_map]
    simp only [hrun, Function.comp_def, List.replicate_zero, run_nil]

/-- **Undoing with operands is undoing with snapshots.**  Along every run from the fresh calculator,
each step is answered as the snapshot calculator answers it, and leaves the same stack and equally
much to undo.  And from the state that a run ends in, `k + 1` `undo`s in a row lead back to the very
state, stack and history, that the `k`-th change in force (the most recent one being the `0`-th) was
made in, for each of the changes that the history has a record of. -/
theorem undo_agrees_with_snapshots (steps : List Step) :
    (fresh.trace steps).map (fun (answer, c) => (answer, c.stack, c.history.size)) =
        (SnapshotCalculator.fresh.trace steps).map
          (fun (answer, k) => (answer, k.stack, k.saved.length)) ∧
      (changes steps).map Change.before =
        (List.range (fresh.run steps).history.size).map
          fun k => (fresh.run steps).run (List.replicate (k + 1) .undo) := by
  refine ⟨(SnapshotCalculator.map_trace_ofChanges Made.nil steps).symm, ?_⟩
  rw [(made_changes steps).size_history]
  exact (made_changes steps).map_before

end Calculator

end StackCalculator
