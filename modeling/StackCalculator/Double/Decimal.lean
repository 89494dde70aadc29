import StackCalculator.Double.Basic

/-!
# Decimal texts

A decimal text is an optional sign followed by digits, in which one point may stand at any place:
`5`, `-0.25`, `.5` and `3.` are decimal texts; `.`, `1e5`, `inf` and the empty text are not.  There
is no exponent and no digit outside `0`–`9`.

* `Decimal` — what such a text denotes, kept exactly: a sign and a fraction of a power of ten.
* `Decimal.parse?` — reads a text, or refuses it.
* `Decimal.toDouble` — the double nearest to the denoted number.  Too large a number becomes an
  infinity and too small a number a zero, both with the sign of the text, which is why the sign of
  `-0` survives.
-/

set_option autoImplicit false

namespace StackCalculator

/-- The number `± coefficient / 10 ^ places`.  The sign is kept apart, since a zero has one too. -/
structure Decimal where
  /-- Whether a minus was written. -/
  negative : Bool
  /-- All digits, read as one integer. -/
  coefficient : Nat
  /-- How many of the digits stand behind the point. -/
  places : Nat
  deriving DecidableEq

namespace Decimal

/-- Split off an optional sign; whether it was a minus comes first. -/
def takeSign : List Char → Bool × List Char
  | '-' :: rest => (true, rest)
  | '+' :: rest => (false, rest)
  | text => (false, text)

/-- The number written by the digits of an integer and of a fractional part. -/
def ofDigits (negative : Bool) (whole fraction : List Char) : Decimal :=
  ⟨negative, Nat.ofDigitChars 10 (whole ++ fraction) 0, fraction.length⟩

/-- Read an unsigned decimal text: digits with at most one point among them, and at least one
digit. -/
def parseUnsigned? (negative : Bool) (text : List Char) : Option Decimal :=
  let whole := text.takeWhile Char.isDigit
  match text.dropWhile Char.isDigit with
  | [] => if whole = [] then none else some (ofDigits negative whole [])
  | '.' :: fraction =>
    if fraction.all Char.isDigit && !(whole ++ fraction).isEmpty then
      some (ofDigits negative whole fraction)
    else none
  | _ => none

/-- Read a decimal text, or refuse anything else. -/
def parse? (text : List Char) : Option Decimal :=
  let (negative, rest) := takeSign text
  parseUnsigned? negative rest

/-- The double nearest to a decimal number, with its sign. -/
def toDouble (d : Decimal) : Double :=
  .signed d.negative (Magnitude.nearest (Magnitude.unitsPerOne * d.coefficient) (10 ^ d.places))

theorem toDouble_ne_nan (d : Decimal) : d.toDouble ≠ .nan := by simp [toDouble]

end Decimal

end StackCalculator
