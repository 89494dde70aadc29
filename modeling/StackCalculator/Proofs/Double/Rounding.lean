import Mathlib
import StackCalculator.Double.Text

/-!
# Rounding keeps the order

`Magnitude.nearest` compares a fraction with the two ranks around it.  This file says the same with
exact rational numbers and without a procedure: `IsNearest q rank` means that `q` units lie between
the two points halfway to the neighbours of `rank`, and on such a point only if `rank` is even.

* `Magnitude.isNearest_nearestRank` — the rank that is computed is such a rank.
* `Magnitude.IsNearest.le` — **the order of numbers is the order of the ranks they round to.**
  Hence there is only one such rank, and the numbers that round to it form an interval.

The exact values are `Magnitude.toRat`, `Double.toRat?` and `Scientific.toRat`.  In these terms the
statements about decimals are `Scientific.rank_toMagnitude_le` and
`Scientific.toMagnitude_eq_of_between`, and the range in which numbers are written plainly is
`Double.InPlainRange`.
-/

set_option autoImplicit false

namespace StackCalculator

/-! ## Exact values -/

namespace Magnitude

/-- The exact value of a finite magnitude. -/
def toRat (m : Magnitude) : ℚ := m.value / unitsPerOne

/-- Twice the value in the middle between a rank and the next one, in units. -/
def halfway (rank : Nat) : Nat := units rank + units (rank + 1)

/-- The rank is the nearest one to `q` units: no neighbour is nearer, and if one is as near, then
this one is even. -/
structure IsNearest (q : ℚ) (rank : Nat) : Prop where
  /-- The rank below is not the one to round to. -/
  lower : ∀ low, low + 1 = rank →
    (halfway low : ℚ) < 2 * q ∨ (halfway low : ℚ) = 2 * q ∧ rank % 2 = 0
  /-- The rank above is not the one to round to. -/
  upper : 2 * q < halfway rank ∨ 2 * q = halfway rank ∧ rank % 2 = 0

theorem halfway_lt_halfway {low high : Nat} (h : low < high) : halfway low < halfway high :=
  Nat.add_lt_add (units_lt_units h) (units_lt_units (Nat.succ_lt_succ h))

/-- **A number that is not greater does not round to a greater rank.** -/
theorem IsNearest.le {q q' : ℚ} {rank rank' : Nat} (h : IsNearest q rank) (h' : IsNearest q' rank')
    (hle : q ≤ q') : rank ≤ rank' := by
  by_contra hlt
  obtain ⟨low, rfl⟩ : ∃ low, rank = low + 1 := ⟨rank - 1, by omega⟩
  have hlower := h.lower low rfl
  have hupper := h'.upper
  rcases Nat.lt_or_ge rank' low with hbelow | hge
  · have hhalf : (halfway rank' : ℚ) < halfway low := Nat.cast_lt.2 (halfway_lt_halfway hbelow)
    rcases hlower with hlower | ⟨hlower, -⟩ <;> rcases hupper with hupper | ⟨hupper, -⟩ <;> linarith
  · -- both numbers are the point halfway, and of two neighbours only one is even
    obtain rfl : rank' = low := by omega
    rcases hlower with hlower | ⟨hlower, heven⟩
    · rcases hupper with hupper | ⟨hupper, -⟩ <;> linarith
    · rcases hupper with hupper | ⟨-, heven'⟩
      · linarith
      · omega

theorem isNearest_nearestRank (num : Nat) {den : Nat} (hden : 0 < den) :
    IsNearest ((num : ℚ) / den) (nearestRank num den) := by
  have hpos : (0 : ℚ) < den := Nat.cast_pos.2 hden
  have hbelow : units (floorRank (num / den)) * den ≤ num :=
    (Nat.le_div_iff_mul_le hden).1 (units_floorRank_le _)
  have habove : num < units (floorRank (num / den) + 1) * den :=
    (Nat.div_lt_iff_lt_mul hden).1 (lt_units_floorRank_succ _)
  have hlt : ∀ n : Nat, 2 * ((num : ℚ) / den) < n ↔ 2 * num < n * den := by
    intro n
    rw [← mul_div_assoc, div_lt_iff₀ hpos]
    exact_mod_cast Iff.rfl
  have hgt : ∀ n : Nat, (n : ℚ) < 2 * ((num : ℚ) / den) ↔ n * den < 2 * num := by
    intro n
    rw [← mul_div_assoc, lt_div_iff₀ hpos]
    exact_mod_cast Iff.rfl
  have heq : ∀ n : Nat, 2 * ((num : ℚ) / den) = n ↔ 2 * num = n * den := by
    intro n
    rw [← mul_div_assoc, div_eq_iff hpos.ne']
    exact_mod_cast Iff.rfl
  generalize hrank : floorRank (num / den) = below at hbelow habove
  have hhalf : halfway below * den = units below * den + units (below + 1) * den := Nat.add_mul ..
  -- the neighbour on the far side is out of the question
  have hlow : ∀ low, low + 1 = below → halfway low * den < 2 * num := by
    rintro low rfl
    have hstep : units low * den < units (low + 1) * den :=
      Nat.mul_lt_mul_of_pos_right (units_lt_units (Nat.lt_succ_self _)) hden
    rw [halfway, Nat.add_mul]
    omega
  have hhigh : 2 * num < halfway (below + 1) * den := by
    have hstep : units (below + 1) * den < units (below + 1 + 1) * den :=
      Nat.mul_lt_mul_of_pos_right (units_lt_units (Nat.lt_succ_self _)) hden
    rw [halfway, Nat.add_mul]
    omega
  simp only [nearestRank, hrank]
  split_ifs with hnear hfar heven
  · exact ⟨fun low h => .inl ((hgt _).2 (hlow low h)), .inl ((hlt _).2 (by omega))⟩
  · refine ⟨fun low h => .inl ((hgt _).2 ?_), .inl ((hlt _).2 hhigh)⟩
    obtain rfl := Nat.add_right_cancel h
    omega
  · exact ⟨fun low h => .inl ((hgt _).2 (hlow low h)), .inr ⟨(heq _).2 (by omega), heven⟩⟩
  · refine ⟨fun low h => .inr ⟨Eq.symm ((heq _).2 ?_), by omega⟩, .inl ((hlt _).2 hhigh)⟩
    obtain rfl := Nat.add_right_cancel h
    omega

theorem nearestRank_le {num den num' den' : Nat} (hden : 0 < den) (hden' : 0 < den')
    (h : (num : ℚ) / den ≤ num' / den') : nearestRank num den ≤ nearestRank num' den' :=
  (isNearest_nearestRank num hden).le (isNearest_nearestRank num' hden') h

/-- Unless it is infinity, what a fraction is rounded to is the nearest magnitude. -/
theorem isNearest_nearest (num : Nat) {den : Nat} (hden : 0 < den)
    (h : (nearest num den).isFinite = true) :
    IsNearest ((num : ℚ) / den) (nearest num den).rank := by
  have hlt : (nearest num den).rank < infinityRank := of_decide_eq_true h
  have hrank : (nearest num den).rank = min (nearestRank num den) infinityRank := rfl
  rw [hrank, min_eq_left (by omega)]
  exact isNearest_nearestRank num hden

theorem nearest_zero {den : Nat} (hden : 0 < den) : nearest 0 den = .zero := by
  have h := nearest_value_mul .zero hden
  rwa [value, zero, units_zero, Nat.zero_mul] at h

theorem unitsPerOne_pos : (0 : ℚ) < unitsPerOne := Nat.cast_pos.2 (Nat.two_pow_pos _)

theorem toRat_nonneg (m : Magnitude) : 0 ≤ m.toRat := by
  have := unitsPerOne_pos
  rw [toRat]
  positivity

theorem value_eq_zero_iff {m : Magnitude} : m.value = 0 ↔ m.rank = 0 := by
  have h := units_inj (r := m.rank) (t := 0)
  rwa [units_zero] at h

theorem toRat_eq_zero_iff {m : Magnitude} : m.toRat = 0 ↔ m.rank = 0 := by
  rw [toRat, div_eq_zero_iff, or_iff_left unitsPerOne_pos.ne', Nat.cast_eq_zero, value_eq_zero_iff]

end Magnitude

/-! ## Decimals -/

namespace Scientific

/-- The exact value. -/
def toRat (x : Scientific) : ℚ := x.coefficient * 10 ^ x.exponent

/-- The fraction of units that a power of ten is worth. -/
theorem grid_eq (exponent : ℤ) :
    ((grid exponent).1 : ℚ) / (grid exponent).2 = Magnitude.unitsPerOne * 10 ^ exponent := by
  obtain ⟨n, rfl | rfl⟩ := exponent.eq_nat_or_neg
  · simp [grid]
  · simp [grid, div_eq_mul_inv]

theorem grid_pos (exponent : ℤ) : 0 < (grid exponent).2 := Nat.pow_pos (by decide)

/-- The fraction of units that is rounded when a decimal is read. -/
theorem units_eq (x : Scientific) :
    ((x.coefficient * (grid x.exponent).1 : ℕ) : ℚ) / (grid x.exponent).2 =
      x.toRat * Magnitude.unitsPerOne := by
  rw [Nat.cast_mul, mul_div_assoc, grid_eq, toRat]
  ring

/-- Reading a decimal keeps the order. -/
theorem rank_toMagnitude_le {x y : Scientific} (h : x.toRat ≤ y.toRat) :
    x.toMagnitude.rank ≤ y.toMagnitude.rank := by
  have hle := mul_le_mul_of_nonneg_right h Magnitude.unitsPerOne_pos.le
  rw [← units_eq, ← units_eq] at hle
  exact min_le_min_right _ (Magnitude.nearestRank_le (grid_pos _) (grid_pos _) hle)

/-- A zero is read as zero, whatever its exponent. -/
theorem toMagnitude_zero (exponent : ℤ) : (mk 0 exponent).toMagnitude = .zero := by
  simp only [toMagnitude, Nat.zero_mul]
  exact Magnitude.nearest_zero (grid_pos exponent)

/-- Unless it is read as infinity, a decimal is read as the nearest magnitude. -/
theorem isNearest_toMagnitude {x : Scientific} (h : x.toMagnitude.isFinite = true) :
    Magnitude.IsNearest (x.toRat * Magnitude.unitsPerOne) x.toMagnitude.rank := by
  rw [← units_eq]
  exact Magnitude.isNearest_nearest _ (grid_pos x.exponent) h

/-- **The decimals that are read as a magnitude form an interval.** -/
theorem toMagnitude_eq_of_between {x y z : Scientific} {m : Magnitude} (hx : x.toMagnitude = m)
    (hz : z.toMagnitude = m) (hxy : x.toRat ≤ y.toRat) (hyz : y.toRat ≤ z.toRat) :
    y.toMagnitude = m := by
  have hlow := rank_toMagnitude_le hxy
  have hhigh := rank_toMagnitude_le hyz
  rw [hx] at hlow
  rw [hz] at hhigh
  exact Magnitude.ext (hhigh.antisymm hlow)

end Scientific

namespace Magnitude

/-- The exact value of a magnitude as a decimal. -/
def exact (m : Magnitude) : Scientific := ⟨5 ^ unitPlaces * m.value, finestExponent⟩

theorem toMagnitude_exact (m : Magnitude) : m.exact.toMagnitude = m := searchFrom_reads_back m 0

theorem toRat_exact (m : Magnitude) : m.exact.toRat = m.toRat := by
  have hten : (10 : ℚ) ^ unitPlaces = 5 ^ unitPlaces * 2 ^ unitPlaces := by
    rw [← mul_pow]
    norm_num
  rw [Scientific.toRat, toRat, exact, finestExponent, unitsPerOne, zpow_neg, zpow_natCast, hten]
  push_cast
  field_simp

/-- A decimal between the exact value and another that is read as the magnitude is read as it,
too. -/
theorem toMagnitude_eq_of_le {x y : Scientific} {m : Magnitude} (hx : x.toMagnitude = m)
    (hxy : x.toRat ≤ y.toRat) (hy : y.toRat ≤ m.toRat) : y.toMagnitude = m :=
  Scientific.toMagnitude_eq_of_between hx m.toMagnitude_exact hxy (m.toRat_exact ▸ hy)

theorem toMagnitude_eq_of_ge {x y : Scientific} {m : Magnitude} (hx : x.toMagnitude = m)
    (hy : m.toRat ≤ y.toRat) (hyx : y.toRat ≤ x.toRat) : y.toMagnitude = m :=
  Scientific.toMagnitude_eq_of_between m.toMagnitude_exact hx (m.toRat_exact ▸ hy) hyx

end Magnitude

/-! ## The plain range -/

namespace Double

/-- The exact value, unless this is an infinity or a NaN.  Both zeros have the same. -/
def toRat? : Double → Option ℚ
  | .nan => none
  | .signed negative m => if m.isFinite then some (if negative then -m.toRat else m.toRat) else none

/-- Zero of either sign, or a number from `10⁻⁴` to below `10¹⁶` in absolute value. -/
def InPlainRange (x : Double) : Prop :=
  ∃ q, x.toRat? = some q ∧ (q = 0 ∨ 1 / 10 ^ 4 ≤ |q| ∧ |q| < 10 ^ 16)

end Double

namespace Magnitude

theorem isPlain_iff {m : Magnitude} :
    m.isPlain = true ↔ m.toRat = 0 ∨ 1 / 10 ^ 4 ≤ m.toRat ∧ m.toRat < 10 ^ 16 := by
  have hpos := unitsPerOne_pos
  have hlow : (1 / 10 ^ 4 : ℚ) ≤ m.toRat ↔ unitsPerOne ≤ m.value * 10 ^ 4 := by
    rw [toRat, div_le_div_iff₀ (by norm_num) hpos, one_mul]
    exact_mod_cast Iff.rfl
  have hhigh : m.toRat < 10 ^ 16 ↔ m.value < 10 ^ 16 * unitsPerOne := by
    rw [toRat, div_lt_iff₀ hpos]
    exact_mod_cast Iff.rfl
  rw [hlow, hhigh, toRat_eq_zero_iff]
  simp [isPlain]

/-- Infinity stands beyond the plain range. -/
theorem isFinite_of_isPlain {m : Magnitude} (h : m.isPlain = true) : m.isFinite = true := by
  by_contra hinfinite
  have hrank : m.rank = infinityRank :=
    m.rank_le.antisymm (Nat.not_lt.1 (by simpa [isFinite] using hinfinite))
  have hvalue : m.value = units infinityRank := congrArg units hrank
  have hlarge : 10 ^ 16 * unitsPerOne ≤ units infinityRank := by
    unfold unitsPerOne unitPlaces
    decide +kernel
  simp only [isPlain, hrank, Bool.or_eq_true, Bool.and_eq_true, decide_eq_true_eq] at h
  rcases h with h | ⟨-, h⟩
  · exact absurd h (by decide)
  · omega

end Magnitude

theorem Double.inPlainRange_signed_iff {negative : Bool} {m : Magnitude} :
    (Double.signed negative m).InPlainRange ↔ m.isPlain = true := by
  have habs : |if negative then -m.toRat else m.toRat| = m.toRat := by
    cases negative <;> simp [abs_of_nonneg m.toRat_nonneg]
  have hzero : (if negative then -m.toRat else m.toRat) = 0 ↔ m.toRat = 0 := by
    cases negative <;> simp
  cases hfinite : m.isFinite with
  | true => simp [InPlainRange, toRat?, hfinite, habs, hzero, Magnitude.isPlain_iff]
  | false =>
    have hplain := mt Magnitude.isFinite_of_isPlain (Bool.eq_false_iff.1 hfinite)
    simp [InPlainRange, toRat?, hfinite, hplain]

theorem Double.not_inPlainRange_nan : ¬ Double.nan.InPlainRange := by
  simp [InPlainRange, toRat?]

instance Double.decidableInPlainRange : DecidablePred Double.InPlainRange
  | .nan => isFalse Double.not_inPlainRange_nan
  | .signed _ _ => decidable_of_iff _ Double.inPlainRange_signed_iff.symm

end StackCalculator
