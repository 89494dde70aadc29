import StackCalculator.Calculator.Event

/-!
# Carrying out commands and lines

Nothing that is typed can stop the calculator.  `Calculator.perform` carries out a command and
`Calculator.execute` a line of text, and both always have a reply: if the command fails, or the line
is none, the outcome says so and the state is the one before.
-/

set_option autoImplicit false

namespace StackCalculator

namespace Calculator

/-- What a calculator answers. -/
structure Reply where
  /-- What came of it. -/
  outcome : Outcome
  /-- What happened on the way. -/
  events : List Event
  /-- The state afterwards. -/
  after : Calculator

/-- The reply to a command, given what is told if it fails. -/
def reply (c : Calculator) (command : Command) (onError : CommandError → List Event) : Reply :=
  match c.apply command with
  | .ok (outcome, after) => ⟨outcome, [.applied command after], after⟩
  | .error error => ⟨.rejected error, onError error, c⟩

/-- Carry out a command. -/
def perform (c : Calculator) (command : Command) : Reply := c.reply command fun _ => []

/-- Take back the most recent change. -/
def undo (c : Calculator) : Reply := c.perform .undo

/-- Carry out a line of text. -/
def execute (c : Calculator) (line : String) : Reply :=
  match Command.parse line with
  | .ok command => c.reply command fun error => [.rejected line error]
  | .error error => ⟨.rejected error, [.rejected line error], c⟩

end Calculator

end StackCalculator
