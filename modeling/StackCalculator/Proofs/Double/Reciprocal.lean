import StackCalculator.Proofs.Double.Nearest

/-!
# Reciprocals

`Double.inv` rounds once, like the other operations.  For a finite number that is not zero, the
exact reciprocal is a fraction of units, so what is known about rounding such a fraction applies:
`Double.roundsTo_inv` says that **the reciprocal is correctly rounded**.

There are numbers so small that their reciprocals lie past the largest finite double.  They are not
many: **the reciprocal is infinite exactly for operands of at most `2⁻¹⁰²⁴`**
(`Double.isInfinite_inv_iff`), a quarter of the smallest normal number.  But zero is only one of
them.  The bound is a double itself, although the exact one is not: both come down to natural
numbers of units, and between the two there is none
(`Magnitude.nearest_reciprocal_eq_infinity_iff`).
-/

set_option autoImplicit false

namespace StackCalculator

namespace Magnitude

/-- The exact value of the fraction that is rounded to find a reciprocal. -/
theorem reciprocal_value (m : Magnitude) :
    ((unitsPerOne * unitsPerOne : ℕ) : ℚ) / m.value / unitsPerOne = m.toRat⁻¹ := by
  rw [Nat.cast_mul, toRat, inv_div, div_div, mul_div_mul_right _ _ unitsPerOne_pos.ne']

theorem nearest_reciprocal_eq_infinity_iff {m : Magnitude} (h : m.rank ≠ 0) :
    nearest (unitsPerOne * unitsPerOne) m.value = .infinity ↔ m.toRat ≤ 1 / 2 ^ 1024 := by
  have hvalue : 0 < m.value := Nat.pos_of_ne_zero (mt value_eq_zero_iff.1 h)
  have hpos : (0 : ℚ) < m.value := Nat.cast_pos.2 hvalue
  have hreciprocal : (2 ^ 1024 - 2 ^ 970 : ℚ) ≤ m.toRat⁻¹ ↔ (2 ^ 54 - 1) * m.value ≤ 2 ^ 104 := by
    have hinfinity : (2 : ℚ) ^ 1024 = 2 ^ 54 * 2 ^ 970 := by rw [← pow_add]
    have hone : (2 : ℚ) ^ 1074 = 2 ^ 104 * 2 ^ 970 := by rw [← pow_add]
    have hcast : (2 : ℚ) ^ 54 - 1 = ((2 ^ 54 - 1 : ℕ) : ℚ) := by norm_num
    rw [toRat, inv_div, le_div_iff₀ hpos, cast_unitsPerOne, hinfinity, hone, ← sub_one_mul,
      mul_right_comm, mul_le_mul_iff_left₀ (by positivity), hcast]
    exact_mod_cast Iff.rfl
  have hoperand : m.toRat ≤ 1 / 2 ^ 1024 ↔ m.value ≤ 2 ^ 50 := by
    have hone : (2 : ℚ) ^ 1074 = 2 ^ 50 * 2 ^ 1024 := by rw [← pow_add]
    rw [toRat, cast_unitsPerOne, div_le_div_iff₀ (by positivity) (by positivity), one_mul, hone,
      mul_le_mul_iff_left₀ (by positivity)]
    exact_mod_cast Iff.rfl
  rw [nearest_eq_infinity_iff _ hvalue, reciprocal_value, hreciprocal, hoperand]
  -- there is no natural number between the two bounds
  omega

end Magnitude

namespace Double

/-- The double is one of the two infinities. -/
def IsInfinite (x : Double) : Prop := ∃ negative, x = .signed negative .infinity

variable {x : Double} {q : ℚ}

theorem isFinite_iff : x.isFinite = true ↔ x ≠ .nan ∧ ¬ x.IsInfinite := by
  cases x with
  | nan => exact ⟨nofun, fun h => absurd rfl h.1⟩
  | signed negative m =>
    constructor
    · intro hfinite
      refine ⟨nofun, ?_⟩
      rintro ⟨negative', h⟩
      cases h
      have hmagnitude : Magnitude.infinity.isFinite = true := hfinite
      exact absurd hmagnitude (by decide)
    · rintro ⟨-, hinfinite⟩
      by_contra hfinite
      have hm : m = .infinity := Magnitude.eq_infinity_of_not_isFinite hfinite
      exact hinfinite ⟨negative, by rw [hm]⟩

theorem exists_toRat?_of_isFinite (h : x.isFinite = true) : ∃ q, x.toRat? = some q := by
  cases x with
  | nan => cases h
  | signed negative m => exact ⟨_, toRat?_signed negative h⟩

/-- The zeros are the doubles with the value zero. -/
theorem isZero_iff (hx : x.toRat? = some q) : x.isZero = true ↔ q = 0 := by
  obtain ⟨negative, m, rfl, -, rfl⟩ := exists_of_toRat? hx
  rw [isZero, beq_iff_eq, withSign_eq_zero_iff, Magnitude.toRat_eq_zero_iff]

/-- **The reciprocal is correctly rounded.** -/
theorem roundsTo_inv (hx : x.toRat? = some q) (hq : q ≠ 0) : RoundsTo (q < 0) q⁻¹ x.inv := by
  obtain ⟨negative, m, rfl, hfinite, rfl⟩ := exists_of_toRat? hx
  have hne : m.toRat ≠ 0 := mt withSign_eq_zero_iff.2 hq
  have hrank : m.rank ≠ 0 := mt Magnitude.toRat_eq_zero_iff.2 hne
  have hvalue : 0 < m.value := Nat.pos_of_ne_zero (mt Magnitude.value_eq_zero_iff.1 hrank)
  have hpos : 0 < m.toRat := m.toRat_nonneg.lt_of_ne' hne
  have hsign : decide (withSign negative m.toRat < 0) = negative := by
    cases negative
    · exact decide_eq_false hpos.not_gt
    · exact decide_eq_true (neg_neg_of_pos hpos)
  rw [hsign, withSign_inv, ← Magnitude.reciprocal_value, inv, if_neg hrank, if_pos hfinite]
  exact roundsTo_nearest negative _ hvalue

/-- **Where the reciprocal is infinite.** -/
theorem isInfinite_inv_iff (hx : x.toRat? = some q) : x.inv.IsInfinite ↔ |q| ≤ 1 / 2 ^ 1024 := by
  obtain ⟨negative, m, rfl, hfinite, rfl⟩ := exists_of_toRat? hx
  rw [abs_withSign negative m.toRat_nonneg, inv]
  by_cases hrank : m.rank = 0
  · rw [if_pos hrank, Magnitude.toRat_eq_zero_iff.2 hrank]
    exact iff_of_true ⟨negative, rfl⟩ (by positivity)
  · rw [if_neg hrank, if_pos hfinite, ← Magnitude.nearest_reciprocal_eq_infinity_iff hrank]
    constructor
    · rintro ⟨negative', h⟩
      exact (Double.signed.inj h).2
    · intro h
      exact ⟨negative, by rw [h]⟩

/-- Everywhere else it is finite. -/
theorem isFinite_inv_iff (hx : x.toRat? = some q) :
    x.inv.isFinite = true ↔ 1 / 2 ^ 1024 < |q| := by
  have hnan : x.inv ≠ .nan := by
    obtain ⟨negative, m, rfl, -, -⟩ := exists_of_toRat? hx
    rw [inv]
    split_ifs <;> exact nofun
  rw [isFinite_iff, and_iff_right hnan, isInfinite_inv_iff hx, not_le]

end Double

end StackCalculator
