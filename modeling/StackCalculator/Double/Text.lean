import StackCalculator.Double.Shortest

/-!
# How a double is written

The digits come from `Magnitude.shortest`; this file only lays them out.  Numbers from `10⁻⁴` up to,
but not including, `10¹⁶`, and the zeros, are written *plainly*, with a point and at least one digit
behind it: `8.0`, `0.0001`, `9999999999999998.0`.  All other finite numbers get an exponent, which
is written without padding and without a plus: `1e16`, `1.2345e-5`.  The sign is a leading minus,
also for zero and infinity; a NaN has none.

Both layouts are built from `fixedPoint`, the notation of `n / 10 ^ places` with a fixed number of
places, which is also what reading a decimal text inverts.
-/

set_option autoImplicit false

namespace StackCalculator

/-- The last `places` digits of `n`, which are those behind the point of `n / 10 ^ places`. -/
def fractionDigits (n places : Nat) : List Char :=
  (Nat.toDigits 10 (n % 10 ^ places)).leftpad places '0'

/-- `n / 10 ^ places` in decimal notation with that many digits behind the point, and without a
point if there are none. -/
def fixedPoint (n places : Nat) : List Char :=
  Nat.toDigits 10 (n / 10 ^ places) ++
    if places = 0 then [] else '.' :: fractionDigits n places

namespace Scientific

/-- The number without an exponent, with at least one digit behind the point. -/
def plainText (x : Scientific) : List Char :=
  let places := max 1 (-x.exponent).toNat
  fixedPoint (x.coefficient * 10 ^ (x.exponent + places).toNat) places

/-- The number with one digit before the point, none behind it if there are no more, and an
exponent. -/
def exponentText (x : Scientific) : List Char :=
  let places := (Nat.toDigits 10 x.coefficient).length - 1
  fixedPoint x.coefficient places ++ 'e' :: (toString (x.exponent + places)).toList

end Scientific

namespace Magnitude

/-- Whether a magnitude is written without an exponent: zero, and everything from `10⁻⁴` to below
`10¹⁶`. -/
def isPlain (m : Magnitude) : Bool :=
  m.rank = 0 || (unitsPerOne ≤ m.value * 10 ^ 4 && m.value < 10 ^ 16 * unitsPerOne)

/-- The text of a magnitude. -/
def text (m : Magnitude) : List Char :=
  if m.rank = 0 then "0.0".toList
  else if m.isPlain then m.shortest.plainText
  else if m.isFinite then m.shortest.exponentText
  else "inf".toList

end Magnitude

namespace Double

/-- The text of a double. -/
def text : Double → List Char
  | .nan => "NaN".toList
  | .signed negative m => (if negative then ['-'] else []) ++ m.text

instance : ToString Double := ⟨fun x => String.ofList x.text⟩

/-- A list of doubles in brackets, separated by commas. -/
def listing (values : List Double) : String :=
  "[" ++ ", ".intercalate (values.map toString) ++ "]"

end Double

end StackCalculator
