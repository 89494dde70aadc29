import StackCalculator.Calculator.Basic
import StackCalculator.Log

/-!
# What happens while the calculator is used

Everything worth telling is an `Event`.  Messages are meant for the user; the other events trace
what the calculator does and show up only in a log that keeps the level `debug`.  An event holds what
happened and not the words for it, so nothing is put into words that nobody reads: `Event.entry` does
that for the events a log keeps.
-/

set_option autoImplicit false

namespace StackCalculator

/-- Something that happened. -/
inductive Event where
  /-- A message for the user. -/
  | message (level : Log.Level) (text : String)
  /-- A command was carried out and led to this state. -/
  | applied (command : Command) (after : Calculator)
  /-- A line was not carried out. -/
  | rejected (line : String) (error : CommandError)
  deriving DecidableEq

namespace Event

/-- An informational message. -/
def info (text : String) : Event := .message .info text

/-- The report of a message of some severity. -/
def report (severity : Severity) (text : String) : Event := .message (.ofSeverity severity) text

/-- How important the event is. -/
def level : Event → Log.Level
  | .message level _ => level
  | .applied .. | .rejected .. => .debug

/-- The event in words. -/
def entry : Event → Log.Entry
  | .message level text => ⟨level, text, []⟩
  | .applied command after =>
    ⟨.debug, "command applied",
      [⟨"command", Text.quoted command.keyword⟩,
       ⟨"depth", toString after.stack.size⟩,
       ⟨"history", toString after.history.size⟩]⟩
  | .rejected line error =>
    ⟨.debug, "command rejected", [⟨"input", Text.quoted line⟩, ⟨"error", error.message⟩]⟩

end Event

namespace Log

/-- The entries that a log of the given level has for the events. -/
def entries (level : Level) (events : List Event) : List Entry :=
  (events.filter fun event => level.keeps event.level).map Event.entry

/-- The text of a log of the given level. -/
def text (level : Level) (events : List Event) : String :=
  String.join ((entries level events).map Entry.render)

/-- The text of a log of the given level for a terminal. -/
def coloredText (level : Level) (events : List Event) : String :=
  String.join ((entries level events).map Entry.renderColored)

@[simp] theorem entries_append (level : Level) (xs ys : List Event) :
    entries level (xs ++ ys) = entries level xs ++ entries level ys := by
  simp [entries]

theorem text_append (level : Level) (xs ys : List Event) :
    text level (xs ++ ys) = text level xs ++ text level ys := by
  simp [text, String.join_append]

end Log

end StackCalculator
