import StackCalculator.Error
import StackCalculator.Text.Quoted

/-!
# The log

Everything the calculator tells its user, the listings of `print` apart, goes to the log.  An entry
of it has a level, a message, and fields that follow the message.  This file says which levels a log
of a given verbosity keeps, and how an entry is written: one line with the level, right-aligned, and
the message, in which terminal controls are spelled out.
-/

set_option autoImplicit false

namespace StackCalculator

namespace Log

/-- How important an entry is.  A log keeps the entries of its own level and of those before it. -/
inductive Level where
  /-- Something went wrong.  The calculator itself never reports at this level. -/
  | error
  /-- Something that was asked for was not done, or has an unusual result. -/
  | warn
  /-- Something the user wants to read. -/
  | info
  /-- Something that helps to follow what the program does. -/
  | debug
  deriving DecidableEq

namespace Level

/-- The position of a level, the most important first. -/
def verbosity : Level → Nat
  | .error => 0
  | .warn => 1
  | .info => 2
  | .debug => 3

/-- Whether a log of this level keeps an entry of the other level. -/
def keeps (log entry : Level) : Bool := entry.verbosity ≤ log.verbosity

/-- The name of a level, right-aligned to five characters. -/
def label : Level → String
  | .error => "ERROR"
  | .warn => " WARN"
  | .info => " INFO"
  | .debug => "DEBUG"

/-- The terminal color of a level: red, yellow, green, blue. -/
def color : Level → String
  | .error => "31"
  | .warn => "33"
  | .info => "32"
  | .debug => "34"

/-- The level at which messages of a severity are reported. -/
def ofSeverity : Severity → Level
  | .debug => .debug
  | .info => .info
  | .warning => .warn

end Level

/-- A named value attached to an entry. -/
structure Field where
  /-- The name. -/
  name : String
  /-- The value as it is written. -/
  value : String
  deriving DecidableEq

/-- Something put into words. -/
structure Entry where
  /-- How important it is. -/
  level : Level
  /-- What it says. -/
  message : String
  /-- The values that come after the message. -/
  fields : List Field
  deriving DecidableEq

namespace Entry

/-- The message with terminal controls spelled out, followed by the fields as they are. -/
def body (entry : Entry) : String :=
  Text.sanitized entry.message ++
    String.join (entry.fields.map fun field => " " ++ field.name ++ "=" ++ field.value)

/-- The entry as text: a line, unless the message has line feeds of its own. -/
def render (entry : Entry) : String := entry.level.label ++ " " ++ entry.body ++ "\n"

/-- The entry as text for a terminal, with the level in color. -/
def renderColored (entry : Entry) : String :=
  "\x1b[" ++ entry.level.color ++ "m" ++ entry.level.label ++ "\x1b[0m " ++ entry.body ++ "\n"

end Entry

/-- The complaint about a second log in one program. -/
def alreadyInstalled : String := "a global default trace dispatcher has already been set"

end Log

end StackCalculator
