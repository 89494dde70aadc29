import StackCalculator.Double.Decimal
import StackCalculator.Error
import StackCalculator.Text.Lowercase

/-!
# Commands and how they are typed

A line is a command if, trimmed and in any case, it is

* a decimal text, which is short for pushing that number;
* `push` followed by blanks and one decimal text;
* one of the ten other keywords, alone.

What starts with `push` but is not of that form is told apart from other unknown input, because
there is advice to give about it.  The order of the three questions does not matter for what is
accepted, but the test for `push` looks at the beginning of the text only, so `pushy` counts as a
failed push as well.
-/

set_option autoImplicit false

namespace StackCalculator

/-- What the calculator can be told to do. -/
inductive Command where
  /-- Put a number on the stack. -/
  | push (value : Double)
  /-- Take the top value off. -/
  | pop
  /-- Take all values off. -/
  | clear
  /-- Replace the top two values by their sum. -/
  | add
  /-- Replace the top two values by their product. -/
  | mul
  /-- Replace the top value by its opposite. -/
  | neg
  /-- Replace the top value by its reciprocal. -/
  | inv
  /-- Take back the most recent command that changed the stack. -/
  | undo
  /-- Show the stack. -/
  | print
  /-- Show the list of commands. -/
  | help
  /-- End the session. -/
  | quit
  deriving DecidableEq

namespace Command

/-- The word that the command is typed with. -/
def keyword : Command → String
  | .push _ => "push"
  | .pop => "pop"
  | .clear => "clear"
  | .add => "add"
  | .mul => "mul"
  | .neg => "neg"
  | .inv => "inv"
  | .undo => "undo"
  | .print => "print"
  | .help => "help"
  | .quit => "quit"

/-- Whether the command changes the stack in a way that can be undone. -/
def isMutating : Command → Bool
  | .push _ | .pop | .clear | .add | .mul | .neg | .inv => true
  | .undo | .print | .help | .quit => false

/-- The commands that are typed as their keyword alone. -/
def bare : List Command :=
  [.pop, .clear, .add, .mul, .neg, .inv, .undo, .print, .help, .quit]

/-- The command with this keyword, of those typed as their keyword alone. -/
def ofKeyword? (word : List Char) : Option Command :=
  bare.find? fun c => c.keyword.toList == word

/-- The word that introduces an explicit push. -/
def pushWord : List Char := "push".toList

/-- Read a text that starts with `push`: the word, and one decimal text as its operand. -/
def parsePush (text : List Char) : Except CommandError Command :=
  match Text.words text with
  | [word, operand] =>
    if word = pushWord then
      match Decimal.parse? operand with
      | some d => .ok (.push d.toDouble)
      | none => .error .invalidPush
    else .error .invalidPush
  | _ => .error .invalidPush

/-- Read a text that has been trimmed and lower-cased. -/
def parseNormalized (text : List Char) : Except CommandError Command :=
  match Decimal.parse? text with
  | some d => .ok (.push d.toDouble)
  | none =>
    if pushWord.isPrefixOf text then parsePush text
    else match ofKeyword? text with
      | some command => .ok command
      | none => .error (.unrecognized (String.ofList text))

/-- Read a line. -/
def parse (line : String) : Except CommandError Command :=
  parseNormalized (Text.normalize line.toList)

end Command

end StackCalculator
