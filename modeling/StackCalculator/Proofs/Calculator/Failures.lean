import StackCalculator.Proofs.Calculator.Changes
import StackCalculator.Proofs.Command.Grammar

/-!
# When commands fail

What a command may ask for is a number of values on the stack (`Command.needs`) or, if it is `undo`,
a record in the history.  `Calculator.Lacks` says that a state does not have it, and which error
tells so.

* `Calculator.apply_eq_error_iff` — in every state, a command that is no `undo` fails exactly if
  there is something it lacks, with that error.
* `Calculator.Made.apply_undo_eq_error_iff` — so does `undo`, in a state made by changes alone.  In
  other states it may also fail because the stack does not hold what the last record is to remove.
* `Calculator.fails_iff_lacks` — **the main result**: in a state that can be reached, commands fail
  exactly for what they lack, and the failure just mentioned never occurs.

No invariant on the depth of the stack is needed for the second.  A state made by changes has its
last record from a command that was carried out in a state made by one change less, and
`Calculator.apply_undo_of_apply` says that reverting such a record does succeed.
-/

set_option autoImplicit false

namespace StackCalculator

namespace Command

/-- How many values have to be on the stack for the command. -/
def needs : Command → Nat
  | .pop | .clear | .neg | .inv => 1
  | .add | .mul => 2
  | .push _ | .undo | .print | .help | .quit => 0

end Command

/-- A step without a command is a line, and that is rejected for its text. -/
theorem Step.command_ne_stack (s : Step) (error : StackError) :
    s.command ≠ .error (.stack error) := by
  intro h
  cases s with
  | line text => cases Command.parse_eq_iff.1 h
  | perform command | apply command | undo => cases h

namespace Calculator

/-- The state lacks something that the command asks for, and this is the error that says so. -/
inductive Lacks (c : Calculator) : Command → CommandError → Prop
  | pop (h : c.stack.size = 0) : c.Lacks .pop (.nothingTo "pop")
  | clear (h : c.stack.size = 0) : c.Lacks .clear (.nothingTo "clear")
  | neg (h : c.stack.size = 0) : c.Lacks .neg (.emptyStack "negate")
  | inv (h : c.stack.size = 0) : c.Lacks .inv (.emptyStack "invert")
  | add (h : c.stack.size < 2) : c.Lacks .add (.insufficientOperands "add")
  | mul (h : c.stack.size < 2) : c.Lacks .mul (.insufficientOperands "multiply")
  | undo (h : c.history.size = 0) : c.Lacks .undo .nothingToUndo

/-- Whether there is something lacking is a matter of two numbers. -/
theorem exists_lacks_iff {c : Calculator} {command : Command} :
    (∃ error, c.Lacks command error) ↔
      c.stack.size < command.needs ∨ command = .undo ∧ c.history.size = 0 := by
  constructor
  · rintro ⟨error, h⟩
    cases h with
    | pop h | clear h | neg h | inv h => exact .inl (by rw [h]; exact Nat.zero_lt_one)
    | add h | mul h => exact .inl h
    | undo h => exact .inr ⟨rfl, h⟩
  · rintro (h | ⟨rfl, h⟩)
    · cases command with
      | pop => exact ⟨_, .pop (Nat.lt_one_iff.1 h)⟩
      | clear => exact ⟨_, .clear (Nat.lt_one_iff.1 h)⟩
      | neg => exact ⟨_, .neg (Nat.lt_one_iff.1 h)⟩
      | inv => exact ⟨_, .inv (Nat.lt_one_iff.1 h)⟩
      | add => exact ⟨_, .add h⟩
      | mul => exact ⟨_, .mul h⟩
      | push x | undo | print | help | quit => exact absurd h (Nat.not_lt_zero _)
    · exact ⟨_, .undo h⟩

theorem not_lacks_stack {c : Calculator} {command : Command} {error : StackError} :
    ¬ c.Lacks command (.stack error) := nofun

/-! ## One command -/

/-- What a command that is no `undo` lacks makes it fail, and nothing else does. -/
theorem apply_eq_error_iff {c : Calculator} {command : Command} {error : CommandError}
    (hundo : command ≠ .undo) : c.apply command = .error error ↔ c.Lacks command error := by
  obtain ⟨⟨values⟩, history⟩ := c
  constructor
  · intro h
    cases command with
    | undo => exact absurd rfl hundo
    | push x | print | help | quit => cases h
    -- on the empty stack the error tells which clause of `Lacks` it is
    | pop | clear | neg | inv =>
      cases values with
      | nil => cases h; constructor; rfl
      | cons x rest => cases h
    | add | mul =>
      rcases values with _ | ⟨x, _ | ⟨y, rest⟩⟩
      · cases h; constructor; exact Nat.zero_lt_two
      · cases h; constructor; exact Nat.one_lt_two
      · cases h
  · intro h
    cases h with
    | undo => exact absurd rfl hundo
    | pop h | clear h | neg h | inv h =>
      obtain rfl : values = [] := List.eq_nil_of_length_eq_zero h
      rfl
    | add h | mul h =>
      rcases values with _ | ⟨x, _ | ⟨y, rest⟩⟩
      · rfl
      · rfl
      · exact absurd h (Nat.not_lt.2 (Nat.le_add_left 2 rest.length))

/-- A command that is carried out finds on the stack what it needs. -/
theorem needs_le_of_apply {c after : Calculator} {command : Command} {outcome : Outcome}
    (h : c.apply command = .ok (outcome, after)) : command.needs ≤ c.stack.size := by
  by_cases hundo : command = .undo
  · subst hundo
    exact Nat.zero_le _
  · refine Nat.not_lt.1 fun hlt => ?_
    obtain ⟨error, hlacks⟩ := exists_lacks_iff.2 (.inl hlt)
    rw [(apply_eq_error_iff hundo).2 hlacks] at h
    cases h

/-- In a state made by changes alone, `undo` fails for want of records only. -/
theorem Made.apply_undo_eq_error_iff {changes : List Change} {c : Calculator}
    (hmade : Made changes c) {error : CommandError} :
    c.apply .undo = .error error ↔ c.Lacks .undo error := by
  cases hmade with
  | nil => exact ⟨fun h => by cases h; exact .undo rfl, fun h => by cases h; rfl⟩
  | cons _ _ hmut happly =>
    rw [apply_undo_of_apply hmut happly]
    refine ⟨nofun, fun h => ?_⟩
    obtain ⟨record, -, hhistory, -⟩ := exists_record_of_apply hmut happly
    cases h with
    | undo h => rw [hhistory, History.size_record] at h; cases h

/-! ## States that can be reached -/

/-- **Commands fail exactly for what they lack.**  In every state that steps lead to from the fresh
calculator, a command fails with an error if and only if the state lacks what this error tells of.
So a command is carried out if and only if the stack holds as many values as it needs and, should it
be `undo`, there is a record.  That the stack does not hold what a record is to remove never
happens, whatever the next step is. -/
theorem fails_iff_lacks (steps : List Step) :
    (∀ command error, (fresh.run steps).apply command = .error error ↔
        (fresh.run steps).Lacks command error) ∧
      (∀ command, (∃ reply, (fresh.run steps).apply command = .ok reply) ↔
        command.needs ≤ (fresh.run steps).stack.size ∧
          ¬ (command = .undo ∧ (fresh.run steps).history.size = 0)) ∧
      ∀ (s : Step) (error : StackError),
        s.command >>= (fresh.run steps).apply ≠ .error (.stack error) := by
  have hfails : ∀ command error, (fresh.run steps).apply command = .error error ↔
      (fresh.run steps).Lacks command error := by
    intro command error
    by_cases hundo : command = .undo
    · subst hundo
      exact (made_changes steps).apply_undo_eq_error_iff
    · exact apply_eq_error_iff hundo
  refine ⟨hfails, fun command => ?_, fun s error h => ?_⟩
  · rw [exists_eq_ok_iff]
    simp only [hfails, exists_lacks_iff, not_or, Nat.not_lt]
  · cases hs : s.command with
    | error error' =>
      rw [hs] at h
      cases h
      exact s.command_ne_stack error hs
    | ok command =>
      rw [hs] at h
      exact not_lacks_stack ((hfails command _).1 h)

end Calculator

end StackCalculator
