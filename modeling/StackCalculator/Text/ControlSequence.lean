/-!
# What a terminal shows of a text

A text that is written to a terminal can steer it: by single control characters, and by *control
sequences*, which an escape character opens.  `visible` is what is left of a text without all that.

A sequence is followed from its escape character to its end (`Place`): most are closed by a letter,
those that carry a command for the operating system by a bell, and those that carry a string by a
certain byte, even where it is only part of a character.  A cancel or substitute character breaks
any sequence off, and another escape character starts over.

Line breaks and tabs are shown, even where they interrupt a sequence that is closed by a letter.
What becomes of the sequence then depends on who reads it, see `Interruption`.
-/

set_option autoImplicit false

namespace StackCalculator.Text.ControlSequence

/-- Where a reader of control sequences stands. -/
inductive Place where
  /-- Outside any sequence. -/
  | outside
  /-- After the escape character. -/
  | escape
  /-- Inside a sequence of two or more characters, before the last. -/
  | shortSequence
  /-- Inside a sequence with parameters, before the letter that closes it. -/
  | parameters
  /-- Inside a command for the operating system, before the bell that closes it. -/
  | systemCommand
  /-- At the start of a command for a device. -/
  | deviceCommand
  /-- Among the parameters of a command for a device. -/
  | deviceParameters
  /-- Past the parameters of a command for a device. -/
  | deviceIntermediates
  /-- Inside a string. -/
  | string
  deriving DecidableEq

/-- What a line break or a tab inside a sequence does to it. -/
inductive Interruption where
  /-- The sequence is over. -/
  | ends
  /-- The sequence goes on with the next character that is not shown, unless one from outside ASCII
  comes before it. -/
  | suspends
  deriving DecidableEq

/-- Whether the encoding of a character has the byte that closes a string. -/
def closesString (c : Char) : Bool := (String.utf8EncodeChar c).contains 0x9C

/-- Whether a character lies between two others, both included. -/
def within (low high c : Char) : Bool := low ≤ c && c ≤ high

/-- The place after a character that is not shown. -/
def Place.next (place : Place) (c : Char) : Place :=
  if c = '\x18' || c = '\x1a' then .outside
  else if c = '\x1b' then .escape
  else match place with
    | .outside => .outside
    | .escape =>
      if c = '[' then .parameters
      else if c = ']' then .systemCommand
      else if c = 'P' then .deviceCommand
      else if c = 'X' || c = '^' || c = '_' then .string
      else if within ' ' '/' c then .shortSequence
      else if within '0' '~' c then .outside
      else .escape
    | .shortSequence => if within '0' '~' c then .outside else .shortSequence
    | .parameters => if within '@' '~' c then .outside else .parameters
    | .systemCommand => if c = '\x07' then .outside else .systemCommand
    | .deviceCommand =>
      if within ' ' '/' c then .deviceIntermediates
      else if within '0' '?' c then .deviceParameters
      else if within '@' '~' c then .string
      else .deviceCommand
    | .deviceParameters =>
      if within ' ' '/' c then .deviceIntermediates
      else if within '<' '~' c then .string
      else .deviceParameters
    | .deviceIntermediates => if within '0' '~' c then .string else .deviceIntermediates
    | .string => if closesString c then .outside else .string

/-- Whether a character is a line break or a tab. -/
def isSpacing (c : Char) : Bool := c = '\t' || c = '\n' || c = '\x0c' || c = '\r'

/-- Whether a character is shown outside of sequences: all are but the control characters of ASCII. -/
def isShown (c : Char) : Bool := (' ' ≤ c && c != '\x7f') || isSpacing c

/-- Whether a character that is met at a place is shown. -/
def Place.shows : Place → Char → Bool
  | .outside, c => isShown c
  | .escape, c | .shortSequence, c | .parameters, c => isSpacing c
  | _, _ => false

/-- The place after a character that is shown. -/
def Place.afterShown (place : Place) (interruption : Interruption) (c : Char) : Place :=
  match interruption with
  | .ends => .outside
  | .suspends => if c.toNat < 0x80 then place else .outside

/-- What is shown of the rest of a text, from a place.  While characters are being shown, an
interrupted sequence hides none of them. -/
def visibleFrom (interruption : Interruption) (place : Place) (showing : Bool) :
    List Char → List Char
  | [] => []
  | c :: rest =>
    if isShown c && (showing || place.shows c) then
      c :: visibleFrom interruption (place.afterShown interruption c) true rest
    else visibleFrom interruption (place.next c) false rest

/-- What is shown of a text. -/
def visible (interruption : Interruption) (text : List Char) : List Char :=
  visibleFrom interruption .outside false text

end StackCalculator.Text.ControlSequence
