import StackCalculator.Calculator.Execute
import StackCalculator.Output
import StackCalculator.Text.Utf8

/-!
# Sessions

A session is a calculator together with the destination of its listings.  `Session.feed` gives it
one line and `Session.run` a whole stream of bytes; both answer with a `Call`, which has the result,
the events reported on the way, in order, and the session afterwards.  The last two are there
whether or not the call succeeded, because a listing that could not be written is reported and
remembered like any other.

The bytes of a stream are cut at line feeds before they are decoded.  No character has a line feed
among its bytes, so nothing is torn apart, and bytes that are no characters spoil their own line
only.
-/

set_option autoImplicit false

namespace StackCalculator

/-- What can go wrong around the calculator. -/
inductive SessionError where
  /-- Input could not be read or output not be written. -/
  | io (text : String)
  /-- The line editor gave up. -/
  | editor (text : String)
  /-- The log could not be set up. -/
  | logging (text : String)
  deriving DecidableEq

namespace SessionError

/-- The wording of an error. -/
def message : SessionError → String
  | .io text => "I/O error: " ++ text
  | .editor text => "REPL error: " ++ text
  | .logging text => "Logging error: " ++ text

/-- The underlying error, where there is one. -/
def source? : SessionError → Option String
  | .io text => some text
  | .editor _ | .logging _ => none

end SessionError

/-- Whether to go on after a line. -/
inductive Flow where
  /-- Read the next line. -/
  | continue
  /-- Read no more lines. -/
  | quit
  deriving DecidableEq

/-- Why a session ended. -/
inductive Ending where
  /-- It was told to. -/
  | quit
  /-- There was no more input. -/
  | endOfInput
  deriving DecidableEq

/-- A calculator and where its listings go. -/
structure Session (δ : Type) where
  /-- The calculator. -/
  calculator : Calculator
  /-- Where listings are written to. -/
  out : δ

/-- What came of something done with a session. -/
structure Call (δ α : Type) where
  /-- The result. -/
  result : Except SessionError α
  /-- What was reported on the way. -/
  events : List Event
  /-- The session afterwards. -/
  session : Session δ

/-- The line that opens a session. -/
def bannerText : String := "** Welcome to Stack Machine **"

/-- The line that closes a session. -/
def farewellText : String := "** Thanks for using Stack Machine. Quitting now. **"

/-- The report of the closing line. -/
def farewell : Event := .info farewellText

/-- The reports that open a session. -/
def greeting : List Event := [.info bannerText, .info promptText]

namespace Call

variable {δ α : Type}

/-- The call with some events reported before its own. -/
def precededBy (events : List Event) (call : Call δ α) : Call δ α :=
  { call with events := events ++ call.events }

/-- The call with the closing line reported after everything else. -/
def closed (call : Call δ α) : Call δ α := { call with events := call.events ++ [farewell] }

end Call

/-- A stream of bytes to read lines from. -/
structure Source where
  /-- The bytes it delivers. -/
  bytes : List UInt8
  /-- How reading past the last byte fails; if it does not, that is the end of the input. -/
  failure : Option String

namespace Source

/-- The parts between line feeds.  There is always one more of them than there are line feeds. -/
def pieces (source : Source) : List (List UInt8) := source.bytes.splitOn 10

/-- The lines that can be read: each one that a line feed ends, and the rest after the last line
feed, if there is any and its end was seen. -/
def lines (source : Source) : List (List UInt8) :=
  if source.failure.isSome || source.pieces.getLast? == some [] then source.pieces.dropLast
  else source.pieces

end Source

namespace Session

variable {δ : Type}

/-- A session with a calculator that has done nothing yet. -/
def fresh (out : δ) : Session δ := ⟨.fresh, out⟩

/-- The text that a line of bytes stands for, whatever the bytes are. -/
def decodeLine (bytes : List UInt8) : String := String.ofList (Text.Utf8.decodeLossy bytes)

variable [Destination δ]

/-- Do what is left to do after a command. -/
def settle (s : Session δ) (effect : Effect) (events : List Event) : Call δ Flow :=
  match effect with
  | .none => ⟨.ok .continue, events, s⟩
  | .quit => ⟨.ok .quit, events, s⟩
  | .print listing =>
    match Destination.writeLine s.out listing with
    | (.ok (), out) => ⟨.ok .continue, events, { s with out }⟩
    | (.error e, out) => ⟨.error (.io e), events, { s with out }⟩

/-- Execute one line.  A line of blanks is passed over without a word. -/
def feed (s : Session δ) (line : String) : Call δ Flow :=
  let input := Text.normalize line.toList
  if input.isEmpty then ⟨.ok .continue, [], s⟩
  else
    let reply := s.calculator.execute (String.ofList input)
    settle { s with calculator := reply.after } reply.outcome.effect
      (reply.events ++ [.report reply.outcome.severity reply.outcome.message])

/-- Execute lines until one of them ends the session or fails. -/
def feedLines (s : Session δ) : List String → Call δ Flow
  | [] => ⟨.ok .continue, [], s⟩
  | line :: lines =>
    let call := s.feed line
    match call.result with
    | .ok .continue => (feedLines call.session lines).precededBy call.events
    | _ => call

/-- Execute every line of a stream until one of them ends the session or fails. -/
def readLines (s : Session δ) (source : Source) : Call δ Ending :=
  let call := s.feedLines (source.lines.map decodeLine)
  let result :=
    match call.result with
    | .error e => .error e
    | .ok .quit => .ok .quit
    | .ok .continue =>
      match source.failure with
      | some text => .error (.io text)
      | none => .ok .endOfInput
  ⟨result, call.events, call.session⟩

/-- Execute every line of a stream and say farewell, whatever came of it. -/
def run (s : Session δ) (source : Source) : Call δ Ending := (s.readLines source).closed

end Session

end StackCalculator
