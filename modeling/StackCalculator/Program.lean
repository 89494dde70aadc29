import StackCalculator.Arguments
import StackCalculator.Session

/-!
# The program as a function

What the program writes, given its arguments and everything on its standard input: listings, help
and version go to the output, and the log and complaints about the arguments to the error stream.
Requests other than starting a session read no input.
-/

set_option autoImplicit false

namespace StackCalculator

/-- All that a run of the program leaves behind. -/
structure Transcript where
  /-- The exit code. -/
  code : UInt8
  /-- What was written to the output. -/
  output : List UInt8
  /-- What was written to the error stream. -/
  errors : String

namespace Transcript

/-- The level of the program's log. -/
def logLevel : Log.Level := .info

/-- A run of a session on the whole input. -/
def ofSession (input : List UInt8) : Transcript :=
  let call := (Session.fresh Buffer.unlimited).run ⟨input, none⟩
  { code := match call.result with
      | .ok _ => 0
      | .error _ => 1
    output := call.session.out.contents
    errors := Log.coloredText logLevel (greeting ++ call.events) }

/-- The answer to a request as it is written to a stream, where a sequence that steers terminals
outlasts a line break. -/
def written? (request : Request) : Option String := request.answer? .suspends

/-- A run of the program. -/
def ofRun (arguments : List String) (input : List UInt8) : Transcript :=
  let request := Request.ofArguments arguments
  match written? request with
  | none => ofSession input
  | some text =>
    if request.isRefused then ⟨request.exitCode, [], text⟩
    else ⟨request.exitCode, text.toUTF8.toList, ""⟩

end Transcript

end StackCalculator
