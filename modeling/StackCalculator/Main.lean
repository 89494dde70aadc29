import StackCalculator.Program

/-!
# The command line program

The outer layer: it reads standard input as it arrives, feeds each line to the session as soon as it
is complete, and writes what the session reports and lists.  What to write is decided elsewhere.
-/

set_option autoImplicit false

namespace StackCalculator

/-- Write what a call has reported and listed, and hand on the session with an empty buffer. -/
def deliver (events : List Event) (s : Session Buffer) : IO (Session Buffer) := do
  let out ← IO.getStdout
  let err ← IO.getStderr
  err.putStr (Log.coloredText Transcript.logLevel events)
  out.write s.out.contents.toByteArray
  out.flush
  return { s with out := .unlimited }

/-- Feed lines as they arrive.  `pending` holds the bytes of a line that is not complete yet. -/
partial def serve (s : Session Buffer) (pending : List UInt8) : IO Unit := do
  let chunk ← (← IO.getStdin).read 4096
  let source : Source := ⟨pending ++ chunk.toList, none⟩
  let final := chunk.isEmpty
  let lines := if final then source.lines else source.pieces.dropLast
  let call := s.feedLines (lines.map Session.decodeLine)
  let s ← deliver call.events call.session
  match call.result with
  | .ok .continue =>
    if final then discard (deliver [farewell] s)
    else serve s (source.pieces.getLastD [])
  | .ok .quit => discard (deliver [farewell] s)
  | .error e =>
    discard (deliver [farewell] s)
    throw (IO.userError e.message)

end StackCalculator

open StackCalculator in
/-- Answer the arguments, or run a session on standard input. -/
def main (arguments : List String) : IO UInt32 := do
  let request := Request.ofArguments arguments
  match Transcript.written? request with
  | some text =>
    if request.isRefused then IO.eprint text else IO.print text
    return request.exitCode.toUInt32
  | none =>
    let s ← deliver greeting (Session.fresh Buffer.unlimited)
    serve s []
    return 0
