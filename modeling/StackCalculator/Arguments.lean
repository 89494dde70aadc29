import StackCalculator.Text.ControlSequence
import StackCalculator.Text.Similarity

/-!
# Command line arguments

The program takes no arguments but a request for help or for its version, so the first argument that
means anything decides: a known flag is answered, and everything else is refused.  Only a lone `--`
is passed over; it announces positional arguments, and the first of those is refused in turn.

Short flags can be joined, as in `-Vh`, and the first letter decides for the whole cluster.  A long
flag may come with a value after an equals sign, but there is none that takes one.  If a long flag
is unknown and its name similar to that of a known one, the refusal suggests the latter.

What is refused is quoted in the answer as a terminal would show it, so that it cannot steer the
terminal; the decision is made on the argument as it is.
-/

set_option autoImplicit false

namespace StackCalculator

/-- The flags there are. -/
inductive Flag where
  /-- To explain the usage. -/
  | help
  /-- To tell the version. -/
  | version
  deriving DecidableEq

namespace Flag

/-- The name of a flag. -/
def name : Flag → String
  | .help => "help"
  | .version => "version"

/-- A flag as it is written. -/
def text (flag : Flag) : String := "--" ++ flag.name

/-- All flags, in the order of the usage. -/
def all : List Flag := [.help, .version]

/-- The flag of a name. -/
def ofName? (name : List Char) : Option Flag := all.find? fun flag => flag.name.toList = name

/-- Of the flag that has been closest to a name so far, if any was similar, and another flag, the one
that is closer; the other flag if there is no difference. -/
def closer? (name : List Char) (best? : Option Flag) (flag : Flag) : Option Flag :=
  if Text.isSimilar name flag.name.toList then
    match best? with
    | none => some flag
    | some best =>
      if (Text.similarity name best.name.toList).rank ≤
          (Text.similarity name flag.name.toList).rank then some flag else some best
  else best?

/-- The flag whose name is closest to a name, if any is similar. -/
def closest? (name : List Char) : Option Flag := all.foldl (closer? name) none

end Flag

/-- What the arguments ask for. -/
inductive Request where
  /-- To start a session. -/
  | start
  /-- To be told what a flag tells. -/
  | tell (flag : Flag)
  /-- Something there is no argument for, but perhaps a flag with a similar name. -/
  | unexpectedArgument (argument : List Char) (similar? : Option Flag)
  /-- A flag with a value it does not take. -/
  | unexpectedValue (flag : Flag) (value : List Char)
  deriving DecidableEq

namespace Request

/-- The request of the first letter of a cluster of short flags. -/
def ofLetter : Char → Request
  | 'h' => .tell .help
  | 'V' => .tell .version
  | c => .unexpectedArgument ['-', c] none

/-- The request of a long flag, which may have a value. -/
def ofLong (name : List Char) (value? : Option (List Char)) : Request :=
  match Flag.ofName? name, value? with
  | some flag, none => .tell flag
  | some flag, some value => .unexpectedValue flag value
  | none, _ => .unexpectedArgument ('-' :: '-' :: name) (Flag.closest? name)

/-- The request of an argument that does not announce others. -/
def ofArgument (argument : List Char) : Request :=
  match argument with
  | '-' :: '-' :: long =>
    let name := long.takeWhile (· != '=')
    ofLong name (long.drop name.length).tail?
  | '-' :: c :: _ => ofLetter c
  | _ => .unexpectedArgument argument none

/-- The request that a list of arguments makes. -/
def ofArguments : List String → Request
  | [] => .start
  | "--" :: [] => .start
  | "--" :: argument :: _ => .unexpectedArgument argument.toList none
  | argument :: _ => ofArgument argument.toList

/-- What the program is for and how it is started. -/
def helpMessage : String :=
  "Interactive stack calculator with single-step undo\n\n" ++
  "Usage: stack-machine\n\n" ++
  "Options:\n" ++
  "  -h, --help     Print help\n" ++
  "  -V, --version  Print version\n"

/-- The name of the program with its version. -/
def versionMessage : String := "stack-machine 0.1.0\n"

/-- What a flag tells. -/
def message : Flag → String
  | .help => helpMessage
  | .version => versionMessage

/-- The usage of the program, or of one of its flags. -/
def usage : Option Flag → String
  | none => "Usage: stack-machine"
  | some flag => "Usage: stack-machine " ++ flag.text

/-- A complaint about the arguments, with the usage that would have been right. -/
def complaint (what : String) (flag? : Option Flag) : String :=
  "error: " ++ what ++ "\n\n" ++ usage flag? ++ "\n\nFor more information, try '--help'.\n"

/-- What is added to a complaint about an argument that is similar to a flag. -/
def tip : Option Flag → String
  | none => ""
  | some flag => "\n\n  tip: a similar argument exists: '" ++ flag.text ++ "'"

/-- A part of the arguments between quotation marks, without what could steer a terminal. -/
def shown (interruption : Text.ControlSequence.Interruption) (text : List Char) : String :=
  "'" ++ String.ofList (Text.ControlSequence.visible interruption text) ++ "'"

/-- The answer to a request that does not start a session. -/
def answer? (interruption : Text.ControlSequence.Interruption) : Request → Option String
  | .start => none
  | .tell flag => some (message flag)
  | .unexpectedArgument argument similar? =>
    some (complaint ("unexpected argument " ++ shown interruption argument ++ " found" ++
      tip similar?) similar?)
  | .unexpectedValue flag value =>
    some (complaint ("unexpected value " ++ shown interruption value ++ " for '" ++ flag.text ++
      "' found; no more were expected") flag)

/-- Whether a request is refused. -/
def isRefused : Request → Bool
  | .unexpectedArgument .. | .unexpectedValue .. => true
  | _ => false

/-- The exit code of a program that only answers: 2 if the request was refused. -/
def exitCode (request : Request) : UInt8 := if request.isRefused then 2 else 0

end Request

end StackCalculator
