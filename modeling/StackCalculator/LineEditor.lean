import StackCalculator.LineEditor.Backspace
import StackCalculator.Session

/-!
# Sessions over a line editor

A line editor stands between the input and the session.  It has two modes.

* *Piped*, when the input is no terminal: it reads lines of strict UTF-8, takes their line ending
  off, and carries out the backspaces in what is left, in the way of an `Editing`.  Bytes that are
  no characters end the session with an error.
* *Terminal*: what arrives is a sequence of reads, each of which submits a line, recalls the line
  submitted last, is interrupted, or ends the input.  Lines that are not blank are remembered for
  recalling, before it is known what comes of them.

In either mode the farewell belongs to a regular ending.  An error, of the editor or of a listing
that cannot be written, ends the session without it.
-/

set_option autoImplicit false

namespace StackCalculator

namespace LineEditor

variable {δ : Type} [Destination δ]

/-- The call that ends a session regularly. -/
def ended (s : Session δ) (ending : Ending) : Call δ Ending := ⟨.ok ending, [farewell], s⟩

/-- Feed a line, and go on with the rest if that is what to do. -/
def feedThen (s : Session δ) (line : String) (rest : Session δ → Call δ Ending) :
    Call δ Ending :=
  let call := s.feed line
  match call.result with
  | .ok .continue => (rest call.session).precededBy call.events
  | .ok .quit => (ended call.session .quit).precededBy call.events
  | .error e => ⟨.error e, call.events, call.session⟩

/-! ## Piped -/

/-- The text without a carriage return at its end. -/
def dropReturn (text : List Char) : List Char :=
  if text.getLast? = some '\r' then text.dropLast else text

/-- The error of a line that is no text. -/
def notText : SessionError :=
  .editor "Readline error: stream did not contain valid UTF-8"

namespace Editing

variable (editing : Editing)

/-- The line that the editor makes of the bytes before a line feed, or at the end of the input,
where a carriage return is no part of a line ending. -/
def readLine? (terminated : Bool) (bytes : List UInt8) : Option String :=
  (Text.Utf8.decode? bytes).map fun text =>
    String.ofList (editing.erase (if terminated then dropReturn text else text))

/-- Feed the lines of the input, given the parts between its line feeds. -/
def runPieces (s : Session δ) : List (List UInt8) → Call δ Ending
  | [] => ended s .endOfInput
  | piece :: rest =>
    if rest.isEmpty && piece.isEmpty then ended s .endOfInput
    else match editing.readLine? (!rest.isEmpty) piece with
      | none => ⟨.error notText, [], s⟩
      | some line => feedThen s line fun s => runPieces s rest

/-- A session over a line editor with this editing, with input that is no terminal. -/
def runPiped (s : Session δ) (bytes : List UInt8) : Call δ Ending :=
  editing.runPieces s (bytes.splitOn 10)

end Editing

/-- A session over the line editor of the program, with input that is no terminal. -/
def runPiped (s : Session δ) (bytes : List UInt8) : Call δ Ending :=
  Editing.clusters.runPiped s bytes

/-! ## At a terminal -/

/-- One read of a line at a terminal. -/
inductive Read where
  /-- A line was typed and submitted. -/
  | submit (line : String)
  /-- The line remembered last was called up and submitted. -/
  | recall
  /-- Typing was interrupted, and what was typed is dropped. -/
  | interrupt
  /-- The end of the input was typed. -/
  | endOfInput
  deriving DecidableEq

/-- What is said when typing is interrupted. -/
def interruptHint : Event := .info "Press Ctrl-D or type 'quit' to quit"

/-- The read that a sequence of keys amounts to.  The last key decides: Enter submits what was typed
before it, or what the up arrow called up, Ctrl-C interrupts, and anything else can only be the end
of the input. -/
def Read.ofKeys (keys : String) : Read :=
  match keys.toList.getLast? with
  | some '\r' => if keys = "\x1b[A\r" then .recall else .submit (String.ofList keys.toList.dropLast)
  | some '\x03' => .interrupt
  | _ => .endOfInput

/-- What is remembered after a line was submitted: the latest line that is not blank. -/
def remember (latest line : String) : String :=
  if (Text.trim line.toList).isEmpty then latest else line

/-- A session over the line editor at a terminal.  `latest` is the line that a recall calls up, an
empty one at first. -/
def runReads (s : Session δ) (latest : String) : List Read → Call δ Ending
  | [] => ended s .endOfInput
  | .endOfInput :: _ => ended s .endOfInput
  | .interrupt :: rest => (runReads s latest rest).precededBy [interruptHint]
  | .recall :: rest => feedThen s latest fun s => runReads s latest rest
  | .submit line :: rest =>
    feedThen s line fun s => runReads s (remember latest line) rest

/-- A session over the line editor at a terminal.  When the reads run out, the input ends. -/
def runTerminal (s : Session δ) (reads : List Read) : Call δ Ending := runReads s "" reads

end LineEditor

end StackCalculator
