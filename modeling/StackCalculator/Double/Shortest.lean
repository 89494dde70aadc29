import StackCalculator.Double.Basic

/-!
# The shortest decimal that reads back

A double is shown by the fewest decimal digits that still denote it: of all decimals that round to
the double, one on the coarsest power-of-ten grid that holds any of them, and there the one nearest
to the exact value.  When two are equally near, the larger one is shown.

The definition follows that description.  On the grid of multiples of `10 ^ p`, if any multiple
rounds to the given magnitude then one of the two multiples enclosing its exact value does, because
the numbers that round to a magnitude form an interval around it.  So `pick?` looks at these two
only, and `searchFrom` walks from a grid too coarse for anything to a grid so fine that the exact
value itself lies on it.  Nothing else about the double's digits is ever consulted: *reading back is
the test*, and it is the very rounding that reading a decimal text uses.  So `toMagnitude_shortest`,
which says that the result reads back, has next to nothing to prove.
-/

set_option autoImplicit false

namespace StackCalculator

/-- The number `coefficient * 10 ^ exponent`. -/
structure Scientific where
  /-- The digits, read as one integer. -/
  coefficient : Nat
  /-- The power of ten that the last digit counts. -/
  exponent : Int
  deriving DecidableEq

namespace Scientific

/-- The size of `10 ^ exponent` as a fraction of units: numerator and denominator. -/
def grid (exponent : Int) : Nat × Nat :=
  (Magnitude.unitsPerOne * 10 ^ exponent.toNat, 10 ^ (-exponent).toNat)

/-- The magnitude nearest to the number. -/
def toMagnitude (x : Scientific) : Magnitude :=
  let (num, den) := grid x.exponent
  Magnitude.nearest (x.coefficient * num) den

end Scientific

namespace Magnitude

/-- The multiple of `10 ^ exponent` to show for a magnitude, if one reads back as it.  Of the two
multiples around the exact value the nearer one is preferred, and the upper one on a tie. -/
def pick? (m : Magnitude) (exponent : Int) : Option Scientific :=
  let (num, den) := Scientific.grid exponent
  let lower := Scientific.mk (m.value * den / num) exponent
  let upper := Scientific.mk (m.value * den / num + 1) exponent
  let upperIsNearer := num ≤ 2 * (m.value * den % num)
  if lower.toMagnitude = m then
    if upper.toMagnitude = m ∧ upperIsNearer then some upper else some lower
  else if upper.toMagnitude = m then some upper
  else none

/-- The finest grid that is ever needed: a unit is `2⁻¹⁰⁷⁴`, hence a multiple of `10⁻¹⁰⁷⁴`, and so is
every number of units. -/
def finestExponent : Int := -unitPlaces

/-- Search the grids from `10 ^ (steps - 1074)` down to the finest one, where the exact value is a
multiple. -/
def searchFrom (m : Magnitude) : Nat → Scientific
  | 0 => ⟨5 ^ unitPlaces * m.value, finestExponent⟩
  | steps + 1 =>
    match m.pick? (finestExponent + (steps + 1 : Nat)) with
    | some found => found
    | none => searchFrom m steps

/-- How many steps above the finest grid the search starts: with the least power of ten that is not
below the value, found by counting decimal digits of the value or of its reciprocal. -/
def startingSteps (m : Magnitude) : Nat :=
  if unitsPerOne ≤ m.value then unitPlaces + (Nat.toDigits 10 (m.value / unitsPerOne)).length
  else unitPlaces + 1 - (Nat.toDigits 10 (unitsPerOne / m.value)).length

/-- The decimal to show for a positive finite magnitude. -/
def shortest (m : Magnitude) : Scientific := m.searchFrom m.startingSteps

/-! ## Reading back -/

/-- What is picked reads back: that is the condition for picking it. -/
theorem pick?_reads_back {m : Magnitude} {exponent : Int} {x : Scientific}
    (h : m.pick? exponent = some x) : x.toMagnitude = m := by
  unfold pick? at h
  dsimp only at h
  split at h
  · rename_i hlower
    split at h
    · rename_i hupper
      obtain rfl := Option.some.inj h
      exact hupper.1
    · obtain rfl := Option.some.inj h
      exact hlower
  · split at h
    · rename_i hupper
      obtain rfl := Option.some.inj h
      exact hupper
    · exact absurd h (by simp)

/-- On the finest grid a unit is a multiple. -/
theorem grid_finestExponent : Scientific.grid finestExponent = (unitsPerOne, 10 ^ unitPlaces) := by
  simp [Scientific.grid, finestExponent]

/-- Wherever the search starts, it ends with a decimal that reads back, since the exact value does. -/
theorem searchFrom_reads_back (m : Magnitude) (steps : Nat) :
    (m.searchFrom steps).toMagnitude = m := by
  induction steps with
  | zero =>
    have hexact : 5 ^ unitPlaces * m.value * unitsPerOne = m.value * 10 ^ unitPlaces := by
      rw [unitsPerOne, Nat.mul_comm (5 ^ _), Nat.mul_assoc, ← Nat.mul_pow]
    rw [searchFrom, Scientific.toMagnitude, grid_finestExponent]
    dsimp only
    rw [hexact]
    exact nearest_value_mul m (Nat.pow_pos (by decide))
  | succ steps ih =>
    unfold searchFrom
    split
    · rename_i found h
      exact pick?_reads_back h
    · exact ih

/-- **The decimal that is shown reads back.**  It rounds to the magnitude it was found for. -/
theorem toMagnitude_shortest (m : Magnitude) : m.shortest.toMagnitude = m :=
  searchFrom_reads_back m _

end Magnitude

end StackCalculator
