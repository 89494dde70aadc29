import StackCalculator.Command
import StackCalculator.History

/-!
# The calculator

The state is a stack together with the history of what was done to it, and `Calculator.apply`
carries out one command on it.  A command that fails says why and changes nothing: there is no new
state to speak of in that case, so the type already says it.

Undoing takes the most recent record back and drops it.  Should the stack not hold what the record
expects, the record stays; for a calculator that started empty this never happens.
-/

set_option autoImplicit false

namespace StackCalculator

/-- The line that asks for a command. -/
def promptText : String := "Please enter command:"

/-- The list of commands. -/
def helpText : String :=
  " Stack Machine supports below list of commands\n\n" ++
  "PUSH <xyz> or <xyz>   - Pushes the numeric value <xyz> to the top of the stack " ++
  "( <xyz> is a valid decimal number ).\n" ++
  "POP     - Removes the top element from the stack.\n" ++
  "CLEAR   - Removes all elements from the stack.\n" ++
  "ADD     - Adds the top 2 elements on the stack and pushes the result back to the stack.\n" ++
  "MUL     - Multiplies the top 2 elements on the stack and pushes the result back to the " ++
  "stack.\n" ++
  "NEG     - Negates the top element on the stack and pushes the result back to the stack.\n" ++
  "INV     - Inverts the top element on the stack and pushes the result back to the stack.\n" ++
  "UNDO    - The last instruction is undone leaving the stack in the same state as before " ++
  "that instruction.\n" ++
  "PRINT   - Prints all elements that are currently on the stack.\n" ++
  "QUIT    - Exits the program.\n"

/-- What is left to do after a command. -/
inductive Effect where
  /-- Nothing. -/
  | none
  /-- Write this listing to the output. -/
  | print (listing : String)
  /-- Stop. -/
  | quit
  deriving DecidableEq

/-- What came of a command. -/
structure Outcome where
  /-- Whether the command was carried out. -/
  applied : Bool
  /-- How loudly to report it. -/
  severity : Severity
  /-- What to report. -/
  message : String
  /-- What is left to do. -/
  effect : Effect
  deriving DecidableEq

namespace Outcome

/-- A command that was carried out, with nothing special about it. -/
def done (message : String) : Outcome := ⟨true, .debug, message, .none⟩

/-- A command that was not carried out. -/
def rejected (error : CommandError) : Outcome := ⟨false, error.severity, error.message, .none⟩

end Outcome

/-- The state of the calculator. -/
@[ext] structure Calculator where
  /-- The values. -/
  stack : Stack
  /-- What can be undone. -/
  history : History
  deriving DecidableEq

namespace Calculator

/-- The calculator that has done nothing yet. -/
def fresh : Calculator := ⟨.empty, .empty⟩

/-- Take the top value, or say that an empty stack has none to do this with. -/
def takeOne (s : Stack) (action : String) : Except CommandError (Double × Stack) :=
  s.pop.mapError fun _ => .emptyStack action

/-- Take the top two values, the top one first.  Nothing is taken unless both are there. -/
def takeTwo (s : Stack) (action : String) : Except CommandError (Double × Double × Stack) := do
  (s.require 2).mapError fun _ => .insufficientOperands action
  let (first, s) ← s.pop.mapError .stack
  let (second, s) ← s.pop.mapError .stack
  pure (first, second, s)

/-- The state with a new stack and a record of how it came about. -/
def advance (c : Calculator) (stack : Stack) (record : Record) : Calculator :=
  ⟨stack, c.history.record record⟩

/-- The outcome of inverting a value.  Zero has no reciprocal, so the result is shown and the user
is warned. -/
def inverted (x : Double) : Outcome :=
  if x.isZero then
    { Outcome.done ("Inverted " ++ toString x ++ "; result is " ++ toString x.inv) with
      severity := .warning }
  else .done ("Inverted " ++ toString x)

/-- The outcome of showing the stack. -/
def printed (s : Stack) : Outcome :=
  let listing := s.listing
  { applied := true
    severity := .info
    message := if s.isEmpty then "Stack is empty." else "Stack Elements : " ++ listing
    effect := .print listing }

/-- Carry out a command. -/
def apply (c : Calculator) : Command → Except CommandError (Outcome × Calculator)
  | .push x =>
    .ok (.done ("Pushed " ++ toString x), c.advance (c.stack.push x) (.push x))
  | .pop => do
    let (x, s) ← c.stack.pop.mapError fun _ => CommandError.nothingTo "pop"
    pure (.done ("Popped " ++ toString x), c.advance s (.pop x))
  | .clear =>
    if c.stack.isEmpty then .error (.nothingTo "clear")
    else .ok (.done ("Cleared " ++ toString c.stack.size ++ " element(s)"),
      c.advance .empty (.clear c.stack.values))
  | .add => do
    let (x, y, s) ← takeTwo c.stack "add"
    pure (.done ("Added " ++ toString x ++ " and " ++ toString y),
      c.advance (s.push (x.add y)) (.add x y))
  | .mul => do
    let (x, y, s) ← takeTwo c.stack "multiply"
    pure (.done ("Multiplied " ++ toString x ++ " by " ++ toString y),
      c.advance (s.push (x.mul y)) (.mul x y))
  | .neg => do
    let (x, s) ← takeOne c.stack "negate"
    pure (.done ("Negated " ++ toString x), c.advance (s.push x.neg) (.neg x))
  | .inv => do
    let (x, s) ← takeOne c.stack "invert"
    pure (inverted x, c.advance (s.push x.inv) (.inv x))
  | .undo =>
    match c.history.last? with
    | none => .error .nothingToUndo
    | some record => do
      let s ← (record.revert c.stack).mapError .stack
      pure (.done ("Undid " ++ record.name), ⟨s, c.history.dropLast⟩)
  | .print => .ok (printed c.stack, c)
  | .help =>
    .ok ({ Outcome.done (helpText ++ "\n" ++ promptText) with severity := .info }, c)
  | .quit => .ok ({ Outcome.done "Quit requested" with effect := .quit }, c)

end Calculator

end StackCalculator
