import StackCalculator.Double.Magnitude

/-!
# Binary64 numbers and their arithmetic

`Double` is the calculator's only kind of value: a sign with a magnitude, or the single `nan`.
Zeros of both signs are different doubles, and so is everything else that can be told apart in
print; the payload of a NaN cannot, so there is only one.

The operations are the ones the calculator offers — sum, product, negation, reciprocal — each
defined as *the exact result, rounded once* by `Magnitude.nearest`.  The exact results are integer
computations in units of `2⁻¹⁰⁷⁴`, which is why nothing here refers to machine arithmetic.

Two equalities live side by side.  `=` tells all doubles apart; `Double.sameNumber` is the numeric
comparison, under which the zeros agree and a NaN differs even from itself.
-/

set_option autoImplicit false

namespace StackCalculator

/-- A binary64 number. -/
inductive Double where
  /-- The result of an operation that has none. -/
  | nan
  /-- A number or an infinity, with its sign. -/
  | signed (negative : Bool) (magnitude : Magnitude)
  deriving DecidableEq

namespace Double

/-- The number encoded by the 64 bits of the interchange format: the sign is the top bit, and the
remaining bits read as one integer are the rank, whatever lies past infinity being a NaN. -/
def ofBits (bits : UInt64) : Double :=
  let rank := bits.toNat % 2 ^ 63
  if h : rank ≤ Magnitude.infinityRank then .signed (2 ^ 63 ≤ bits.toNat) ⟨rank, h⟩ else .nan

/-- Whether this is one of the two zeros. -/
def isZero : Double → Bool
  | .nan => false
  | .signed _ m => m.rank == 0

/-- Whether this is neither an infinity nor a NaN. -/
def isFinite : Double → Bool
  | .nan => false
  | .signed _ m => m.isFinite

/-- Numeric comparison: the zeros are the same number, and a NaN is no number at all. -/
def sameNumber : Double → Double → Bool
  | .signed s m, .signed t n => m = n && (s = t || m.rank = 0)
  | _, _ => false

/-! ## Arithmetic -/

/-- The opposite number: the sign flips, also that of a zero or an infinity. -/
def neg : Double → Double
  | .nan => .nan
  | .signed s m => .signed (!s) m

/-- The value in units, for finite numbers. -/
def signedUnits (negative : Bool) (m : Magnitude) : Int :=
  if negative then -m.value else m.value

/-- The sum of two finite numbers.  An exact sum of zero is positive unless both summands are
negative, so that `x + -x` is the positive zero and the negative zero is a neutral element. -/
def addFinite (s : Bool) (m : Magnitude) (t : Bool) (n : Magnitude) : Double :=
  let sum := signedUnits s m + signedUnits t n
  if sum = 0 then .signed (s && t) .zero
  else .signed (sum < 0) (Magnitude.nearest sum.natAbs 1)

/-- The sum.  Opposite infinities have none. -/
def add : Double → Double → Double
  | .signed s m, .signed t n =>
    if m.isFinite then
      if n.isFinite then addFinite s m t n else .signed t n
    else if n.isFinite || s = t then .signed s m else .nan
  | _, _ => .nan

/-- The product.  An infinity times zero has none. -/
def mul : Double → Double → Double
  | .signed s m, .signed t n =>
    if m.isFinite && n.isFinite then
      .signed (s != t) (Magnitude.nearest (m.value * n.value) Magnitude.unitsPerOne)
    else if m.rank = 0 || n.rank = 0 then .nan else .signed (s != t) .infinity
  | _, _ => .nan

/-- The reciprocal.  Zeros and infinities are each other's reciprocals, keeping the sign. -/
def inv : Double → Double
  | .nan => .nan
  | .signed s m =>
    if m.rank = 0 then .signed s .infinity
    else if m.isFinite then
      .signed s (Magnitude.nearest (Magnitude.unitsPerOne * Magnitude.unitsPerOne) m.value)
    else .signed s .zero

end Double

end StackCalculator
