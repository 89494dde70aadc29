import StackCalculator.Text.EscapeTable

/-!
# Quoted and sanitised text

Two ways of making a text safe to put into a line of output.

* `quote` puts a text between quotation marks so that every character of it can be told from the
  picture: the quotation mark, the backslash and the usual control characters are escaped with a
  backslash, and every character without a shape of its own is shown as `\u{…}` with its code point.
* `sanitize` leaves a text as it is but for the control characters that could steer a terminal,
  which it spells out.  Line feeds, carriage returns and tabs pass.
-/

set_option autoImplicit false

namespace StackCalculator.Text

/-- The escape `\u{…}` with the code point in hexadecimal. -/
def codePointEscape (c : Char) : List Char :=
  '\\' :: 'u' :: '\x7b' :: Nat.toDigits 16 c.toNat ++ ['\x7d']

/-- A character as it is shown between quotation marks. -/
def quoteChar (c : Char) : List Char :=
  match c with
  | '\x00' => ['\\', '0']
  | '\t' => ['\\', 't']
  | '\n' => ['\\', 'n']
  | '\r' => ['\\', 'r']
  | '"' => ['\\', '"']
  | '\\' => ['\\', '\\']
  | c => if isIn invisibleRanges c then codePointEscape c else [c]

/-- The text between quotation marks. -/
def quote (text : List Char) : List Char := '"' :: text.flatMap quoteChar ++ ['"']

/-- A string between quotation marks. -/
def quoted (s : String) : String := String.ofList (quote s.toList)

/-- A character as it is shown in running text: the control characters that a terminal acts on are
spelled out. -/
def sanitizeChar (c : Char) : List Char :=
  if c = '\x1b' then ['\\', 'x', '1', 'b']
  else if c = '\x07' then ['\\', 'x', '0', '7']
  else if c = '\x08' then ['\\', 'x', '0', '8']
  else if c = '\x0c' then ['\\', 'x', '0', 'c']
  else if c = '\x7f' then ['\\', 'x', '7', 'f']
  else if 0x80 ≤ c.toNat ∧ c.toNat ≤ 0x9F then codePointEscape c
  else [c]

/-- The text with terminal controls spelled out. -/
def sanitize (text : List Char) : List Char := text.flatMap sanitizeChar

/-- A string with terminal controls spelled out. -/
def sanitized (s : String) : String := String.ofList (sanitize s.toList)

end StackCalculator.Text
