/-!
# What can go wrong with a command

Errors are causes; their wording is in `StackError.message` and `CommandError.message` and nowhere
else.  None of them is fatal: a command that fails is reported and leaves the calculator as it was.
`CommandError.severity` says how loudly.
-/

set_option autoImplicit false

namespace StackCalculator

/-- How loudly a message is reported. -/
inductive Severity where
  /-- A routine confirmation. -/
  | debug
  /-- Something the user asked to see, or an input that asks for nothing. -/
  | info
  /-- Something the user asked for that could not be done, or has an unusual result. -/
  | warning
  deriving DecidableEq

/-- A stack that does not hold what an operation takes from it. -/
inductive StackError where
  /-- The top of an empty stack was asked for. -/
  | empty
  /-- More values were required than the stack holds. -/
  | underflow (needed available : Nat)
  deriving DecidableEq

namespace StackError

/-- The wording of a stack error. -/
def message : StackError → String
  | .empty => "stack is empty"
  | .underflow needed available =>
    "stack underflow: needed " ++ toString needed ++ ", available " ++ toString available

end StackError

/-- A line or command that is not carried out. -/
inductive CommandError where
  /-- A push without exactly one decimal operand. -/
  | invalidPush
  /-- An action that an empty stack leaves nothing to do for. -/
  | nothingTo (action : String)
  /-- An action that an empty stack makes impossible. -/
  | emptyStack (action : String)
  /-- An action on two values with fewer than two on the stack. -/
  | insufficientOperands (action : String)
  /-- An undo with an empty history. -/
  | nothingToUndo
  /-- A text that is no command. -/
  | unrecognized (input : String)
  /-- A stack that does not hold what a record of the history expects to take back. -/
  | stack (error : StackError)
  deriving DecidableEq

namespace CommandError

/-- The wording of a command error. -/
def message : CommandError → String
  | .invalidPush =>
    "Not a valid push command. " ++
      "Please Enter PUSH <xyz> where <xyz> is a valid decimal number."
  | .nothingTo action => "Stack is empty. Nothing to " ++ action ++ "."
  | .emptyStack action => "Stack is empty. Cannot " ++ action ++ "."
  | .insufficientOperands action => "Not enough elements in stack to " ++ action ++ "."
  | .nothingToUndo => "Nothing to undo"
  | .unrecognized input =>
    "Can not recognise the command : '" ++ input ++
      "' . Enter 'Help' to get the list of commands."
  | .stack error => error.message

/-- Inputs that ask for nothing that could be done are no cause for a warning. -/
def severity : CommandError → Severity
  | .nothingTo _ | .unrecognized _ => .info
  | _ => .warning

end CommandError

end StackCalculator
