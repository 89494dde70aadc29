import StackCalculator.Proofs.Calculator.Steps

/-!
# Working in place

`Calculator.apply` gives no state when it fails, so by its very type there is nothing that a failed
command could have changed.  A calculator that keeps its stack and its history in one place is less
safe: what has been taken from the stack when a command fails is gone.  `InPlace` is that
calculator.  It takes operands off one by one, and puts operands back one by one, and a failure
leaves the state as it has become by then.

* `InPlace.apply_eq`, `InPlace.revert_eq` — what it comes to is nevertheless all or nothing: it does
  what `Calculator.apply` and `Record.revert` say, and where these fail the state is the one it
  started from.  This depends on where the checks are.  `popOperands` asks for both operands before
  it takes the first, what can fail in `revert` comes first, and `undo` drops the record last.
* `Record.revert_eq_error_iff` — when reverting fails.
* `Calculator.rejection_is_atomic` — **the main result**: nothing that is rejected changes anything,
  in every state, whether or not the history fits the stack.
-/

set_option autoImplicit false

namespace StackCalculator

namespace InPlace

/-! ## The stack -/

/-- Take the value on top away. -/
def pop : EStateM StackError Stack Double := fun s =>
  match s.topDown with
  | [] => .error .empty s
  | x :: rest => .ok x ⟨rest⟩

/-- Put a value on top. -/
def push (x : Double) : EStateM StackError Stack Unit := modify (·.push x)

/-- Demand that so many values are there. -/
def require (needed : Nat) : EStateM StackError Stack Unit := do
  let available := (← get).size
  if available < needed then throw (.underflow needed available)

/-- Take all values away. -/
def clear : EStateM StackError Stack Unit := set Stack.empty

/-- Take back what the record is of. -/
def revert : Record → EStateM StackError Stack Unit
  | .push _ => do
    let _ ← pop
  | .pop x => push x
  | .clear xs => xs.forM push
  | .add first second | .mul first second => do
    let _ ← pop
    push second
    push first
  | .neg x | .inv x => do
    let _ ← pop
    push x

/-! ## The calculator -/

/-- Work on the stack of a calculator, with what is told if that fails. -/
def onStack {α : Type} (told : StackError → CommandError) (work : EStateM StackError Stack α) :
    EStateM CommandError Calculator α := fun c =>
  match work.run c.stack with
  | .ok a s => .ok a { c with stack := s }
  | .error error s => .error (told error) { c with stack := s }

/-- Add a record to the history. -/
def record (r : Record) : EStateM CommandError Calculator Unit :=
  modify fun c => { c with history := c.history.record r }

/-- Take the only operand off the stack. -/
def popOperand (action : String) : EStateM CommandError Calculator Double :=
  onStack (fun _ => .emptyStack action) pop

/-- Take two operands off the stack, the one on top first. -/
def popOperands (action : String) : EStateM CommandError Calculator (Double × Double) := do
  onStack (fun _ => .insufficientOperands action) (require 2)
  let first ← onStack .stack pop
  let second ← onStack .stack pop
  return (first, second)

/-- Carry out a command. -/
def apply : Command → EStateM CommandError Calculator Outcome
  | .push x => do
    onStack .stack (push x)
    record (.push x)
    return .done ("Pushed " ++ toString x)
  | .pop => do
    let x ← onStack (fun _ => .nothingTo "pop") pop
    record (.pop x)
    return .done ("Popped " ++ toString x)
  | .clear => do
    let s := (← get).stack
    if s.isEmpty then throw (.nothingTo "clear")
    onStack .stack clear
    record (.clear s.values)
    return .done ("Cleared " ++ toString s.size ++ " element(s)")
  | .add => do
    let (x, y) ← popOperands "add"
    onStack .stack (push (x.add y))
    record (.add x y)
    return .done ("Added " ++ toString x ++ " and " ++ toString y)
  | .mul => do
    let (x, y) ← popOperands "multiply"
    onStack .stack (push (x.mul y))
    record (.mul x y)
    return .done ("Multiplied " ++ toString x ++ " by " ++ toString y)
  | .neg => do
    let x ← popOperand "negate"
    onStack .stack (push x.neg)
    record (.neg x)
    return .done ("Negated " ++ toString x)
  | .inv => do
    let x ← popOperand "invert"
    onStack .stack (push x.inv)
    record (.inv x)
    return Calculator.inverted x
  | .undo => do
    match (← get).history.last? with
    | none => throw .nothingToUndo
    | some r =>
      onStack .stack (revert r)
      modify fun c => { c with history := c.history.dropLast }
      return .done ("Undid " ++ r.name)
  | .print => return Calculator.printed (← get).stack
  | .help => return { Outcome.done (helpText ++ "\n" ++ promptText) with severity := .info }
  | .quit => return { Outcome.done "Quit requested" with effect := .quit }

/-- What a step comes to: its answer and the state afterwards. -/
def step (c : Calculator) (s : Step) : Answer × Calculator :=
  match s.command with
  | .error error => (s.refuse error, c)
  | .ok command =>
    match (apply command).run c with
    | .ok outcome after => (.ok outcome, after)
    | .error error after => (s.refuse error, after)

/-! ## All or nothing -/

/-- What work on a state comes to if a failure takes everything back. -/
def allOrNothing {ε σ α : Type} (s : σ) : Except ε (α × σ) → EStateM.Result ε σ α
  | .ok (a, after) => .ok a after
  | .error error => .error error s

theorem forM_push (xs : List Double) (s : Stack) :
    (xs.forM push).run s = .ok () (s.pushAll xs) := by
  induction xs generalizing s with
  | nil => rfl
  | cons x xs ih => exact ih (s.push x)

/-- Reverting in place is all or nothing. -/
theorem revert_eq (r : Record) (s : Stack) :
    (revert r).run s = allOrNothing s ((r.revert s).map fun after => ((), after)) := by
  obtain ⟨values⟩ := s
  cases r with
  | pop x => rfl
  | clear xs => exact forM_push xs _
  | push x | add first second | mul first second | neg x | inv x =>
    cases values with
    | nil => rfl
    | cons y rest => rfl

theorem run_onStack {α : Type} (told : StackError → CommandError)
    (work : EStateM StackError Stack α) (c : Calculator) :
    (onStack told work).run c =
      match work.run c.stack with
      | .ok a s => .ok a { c with stack := s }
      | .error error s => .error (told error) { c with stack := s } := rfl

/-- What is done after work on the stack is done where that work ended, or not at all. -/
theorem onStack_bind {α β : Type} (told : StackError → CommandError)
    (work : EStateM StackError Stack α) (rest : α → EStateM CommandError Calculator β)
    (c : Calculator) :
    (onStack told work >>= rest).run c =
      match work.run c.stack with
      | .ok a s => (rest a).run { c with stack := s }
      | .error error s => .error (told error) { c with stack := s } := by
  rw [EStateM.run_bind, run_onStack]
  cases work.run c.stack <;> rfl

/-- **A command in place is all or nothing.** -/
theorem apply_eq (command : Command) (c : Calculator) :
    (apply command).run c = allOrNothing c (c.apply command) := by
  obtain ⟨⟨values⟩, history⟩ := c
  cases command with
  | push x | print | help | quit => rfl
  | pop | clear | neg | inv => rcases values with _ | ⟨x, rest⟩ <;> rfl
  -- with one value on the stack, nothing is taken off before the other is found missing
  | add | mul => rcases values with _ | ⟨x, _ | ⟨y, rest⟩⟩ <;> rfl
  | undo =>
    rcases history with ⟨_ | ⟨r, records⟩⟩
    · rfl
    · refine (onStack_bind .stack (revert r) _ _).trans ?_
      have hlast : History.last? ⟨r :: records⟩ = some r := rfl
      rw [revert_eq, Calculator.apply_undo_eq hlast]
      cases r.revert ⟨values⟩ <;> rfl

/-- **A step in place is the step.** -/
theorem step_eq (c : Calculator) (s : Step) : step c s = c.step s := by
  rw [step, Calculator.step_eq]
  cases s.command with
  | error error => rfl
  | ok command =>
    simp only [apply_eq, show (Except.ok command >>= c.apply) = c.apply command from rfl]
    cases c.apply command <;> rfl

end InPlace

/-! ## When reverting fails -/

namespace Record

/-- Whether the command has left a result on the stack, which is to be removed again. -/
def leavesResult : Record → Bool
  | .push _ | .add .. | .mul .. | .neg _ | .inv _ => true
  | .pop _ | .clear _ => false

/-- Reverting fails if there is to be a result on the stack and the stack is empty. -/
theorem revert_eq_error_iff {r : Record} {s : Stack} {error : StackError} :
    r.revert s = .error error ↔ r.leavesResult = true ∧ s = .empty ∧ error = .empty := by
  obtain ⟨values⟩ := s
  constructor
  · intro h
    cases r with
    | pop x | clear xs => cases h
    | push x | add first second | mul first second | neg x | inv x =>
      cases values with
      | nil => cases h; exact ⟨rfl, rfl, rfl⟩
      | cons y rest => cases h
  · rintro ⟨hresult, hs, rfl⟩
    cases hs
    cases r with
    | pop x | clear xs => cases hresult
    | push x | add first second | mul first second | neg x | inv x => rfl

end Record

namespace Calculator

/-- **A rejection is atomic**, in every state, whether or not the history fits the stack.  Working
in place comes to the same as `Calculator.step`; and if a step is not carried out, then stack and
history are as they were, and the outcome leaves nothing to do.  In particular an `undo` whose
record cannot be reverted keeps it.  Reverting a record fails exactly if there is a result to be
removed and the stack is empty, and then, in place as well, the stack stays as it is. -/
theorem rejection_is_atomic :
    (∀ (c : Calculator) (s : Step), InPlace.step c s = c.step s ∧
      ((c.step s).1.applied = false → (c.step s).2 = c ∧
        ∀ outcome, (c.step s).1 = .ok outcome → outcome.effect = .none)) ∧
      (∀ (c : Calculator) (record : Record) (error : StackError),
        c.history.last? = some record → record.revert c.stack = .error error →
          (InPlace.apply .undo).run c = .error (.stack error) c) ∧
      (∀ (record : Record) (s : Stack) (error : StackError),
        record.revert s = .error error ↔
          record.leavesResult = true ∧ s = .empty ∧ error = .empty) ∧
      ∀ (record : Record) (s : Stack), (InPlace.revert record).run s =
        match record.revert s with
        | .ok after => .ok () after
        | .error error => .error error s := by
  refine ⟨fun c s => ⟨InPlace.step_eq c s, fun h => ?_⟩, fun c record error hlast hrevert => ?_,
    fun record s error => Record.revert_eq_error_iff, fun record s => ?_⟩
  · obtain ⟨error, hstep⟩ := exists_step_eq_refuse h
    rw [hstep]
    exact ⟨rfl, fun outcome houtcome => Step.effect_of_refuse houtcome⟩
  · rw [InPlace.apply_eq, apply_undo_eq hlast, hrevert]
    rfl
  · rw [InPlace.revert_eq]
    cases record.revert s <;> rfl

/-- The record of a negation whose result is gone cannot be reverted, and stays. -/
theorem undo_keeps_negation :
    let c : Calculator := ⟨.empty, ⟨[.neg .nan, .push .nan]⟩⟩
    (c.step .undo).1.applied = false ∧ (c.step .undo).2 = c ∧
      (InPlace.apply .undo).run c = .error (.stack .empty) c := by
  intro c
  have happlied : (c.step .undo).1.applied = false := rfl
  obtain ⟨hsteps, hundo, -, -⟩ := rejection_is_atomic
  exact ⟨happlied, ((hsteps c .undo).2 happlied).1, hundo c (.neg .nan) .empty rfl rfl⟩

end Calculator

end StackCalculator
