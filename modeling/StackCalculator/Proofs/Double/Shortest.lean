import StackCalculator.Proofs.Double.Rounding

/-!
# The decimal that is shown is the shortest

`Magnitude.shortest` walks from a coarse power of ten to finer ones and looks at two multiples of
each.  That nothing is missed by this has three reasons.

* On one grid, the two multiples around the exact value are enough, because the decimals that are
  read as a magnitude form an interval: `Magnitude.exists_pick?`.
* The walk starts on a grid too coarse for anything: `Magnitude.exponent_le_exponent_shortest`.
* A decimal on a finer grid that has no more digits than the one found is smaller, by so much that a
  power of ten lies between the two, and this would have been found first.  Only a power of ten
  itself can be found late, and then it is near enough: `Magnitude.digitCount_shortest_eq_one`.

`Magnitude.isShortest_shortest` — **of all decimals that are read as the magnitude, the one that is
shown has the fewest digits, and of those that have as few, it is the nearest to the exact value**,
the larger one if two are equally near.
-/

set_option autoImplicit false

namespace StackCalculator

/-! ## What is asked for -/

/-- How many digits a decimal has. -/
def Scientific.digitCount (x : Scientific) : Nat := (Nat.toDigits 10 x.coefficient).length

/-- The first number is nearer to a value than the second, or as near and not smaller. -/
def Nearer (value x y : ℚ) : Prop :=
  |x - value| < |y - value| ∨ |x - value| = |y - value| ∧ y ≤ x

/-- The decimal is the one to show for a magnitude: it is read as that magnitude, and of all that
are, it is the nearest among those with the fewest digits. -/
structure Magnitude.IsShortest (m : Magnitude) (x : Scientific) : Prop where
  /-- It is read as the magnitude. -/
  reads_back : x.toMagnitude = m
  /-- Any other has more digits, or as many and is not nearer. -/
  best : ∀ y : Scientific, y.toMagnitude = m → x.digitCount < y.digitCount ∨
    x.digitCount = y.digitCount ∧ Nearer m.toRat x.toRat y.toRat

section Nearer

variable {value x y z : ℚ}

/-- Nothing is nearer to a value than the value itself. -/
theorem Nearer.self (value y : ℚ) : Nearer value value y := by
  rcases eq_or_ne y value with rfl | hne
  · exact .inr ⟨rfl, le_rfl⟩
  · refine .inl ?_
    rw [sub_self, abs_zero]
    exact abs_pos.2 (sub_ne_zero.2 hne)

theorem Nearer.of_ge (hyx : y ≤ x) (h : x + y ≤ 2 * value) : Nearer value x y := by
  have hle : |x - value| ≤ |y - value| := sq_le_sq.1 (by nlinarith)
  exact hle.lt_or_eq.imp_right fun heq => ⟨heq, hyx⟩

theorem Nearer.of_lt (hxy : x < y) (h : 2 * value < x + y) : Nearer value x y :=
  .inl (sq_lt_sq.1 (by nlinarith))

theorem Nearer.trans (hxy : Nearer value x y) (hyz : Nearer value y z) : Nearer value x z := by
  rcases hxy with hxy | ⟨hxy, hle⟩
  · rcases hyz with hyz | ⟨hyz, -⟩
    · exact .inl (hxy.trans hyz)
    · exact .inl (hxy.trans_eq hyz)
  · rcases hyz with hyz | ⟨hyz, hle'⟩
    · exact .inl (hxy.trans_lt hyz)
    · exact .inr ⟨hxy.trans hyz, hle'.trans hle⟩

theorem Nearer.antisymm (hxy : Nearer value x y) (hyx : Nearer value y x) : x = y := by
  rcases hxy with hxy | ⟨hxy, hle⟩
  · rcases hyx with hyx | ⟨hyx, -⟩
    · exact absurd hxy hyx.not_gt
    · exact absurd hyx hxy.ne'
  · rcases hyx with hyx | ⟨-, hle'⟩
    · exact absurd hxy hyx.ne'
    · exact hle'.antisymm hle

end Nearer

/-! ## Digits -/

theorem lt_pow_length_toDigits (n : Nat) : n < 10 ^ (Nat.toDigits 10 n).length :=
  (Nat.length_toDigits_le_iff (by decide) (List.length_pos_iff.2 Nat.toDigits_ne_nil)).1 le_rfl

theorem pow_length_toDigits_le {n : Nat} (h : n ≠ 0) :
    10 ^ ((Nat.toDigits 10 n).length - 1) ≤ n := by
  rcases Nat.eq_zero_or_pos ((Nat.toDigits 10 n).length - 1) with hone | hmore
  · rw [hone]
    exact Nat.pos_of_ne_zero h
  · rw [← Nat.not_lt, ← Nat.length_toDigits_le_iff (by decide) hmore]
    omega

namespace Scientific

theorem digitCount_pos (x : Scientific) : 0 < x.digitCount :=
  List.length_pos_iff.2 Nat.toDigits_ne_nil

theorem toRat_lt_pow (x : Scientific) : x.toRat < 10 ^ (x.digitCount + x.exponent) := by
  have hlt : (x.coefficient : ℚ) < 10 ^ x.digitCount := by
    exact_mod_cast lt_pow_length_toDigits x.coefficient
  rw [zpow_add₀ (by norm_num), zpow_natCast]
  exact mul_lt_mul_of_pos_right hlt (by positivity)

theorem pow_le_toRat {x : Scientific} (h : x.coefficient ≠ 0) :
    10 ^ ((x.digitCount - 1 : ℕ) + x.exponent) ≤ x.toRat := by
  have hle : (10 : ℚ) ^ (x.digitCount - 1) ≤ x.coefficient := by
    exact_mod_cast pow_length_toDigits_le h
  rw [zpow_add₀ (by norm_num), zpow_natCast]
  exact mul_le_mul_of_nonneg_right hle (by positivity)

end Scientific

namespace Magnitude

/-! ## One grid -/

/-- The greatest multiple of a power of ten that does not exceed the exact value. -/
def multiplesBelow (m : Magnitude) (exponent : ℤ) : Nat :=
  m.value * (Scientific.grid exponent).2 / (Scientific.grid exponent).1

theorem pick?_eq (m : Magnitude) (exponent : ℤ) :
    m.pick? exponent =
      if (Scientific.mk (m.multiplesBelow exponent) exponent).toMagnitude = m then
        if (Scientific.mk (m.multiplesBelow exponent + 1) exponent).toMagnitude = m ∧
            (Scientific.grid exponent).1 ≤
              2 * (m.value * (Scientific.grid exponent).2 % (Scientific.grid exponent).1) then
          some ⟨m.multiplesBelow exponent + 1, exponent⟩
        else some ⟨m.multiplesBelow exponent, exponent⟩
      else if (Scientific.mk (m.multiplesBelow exponent + 1) exponent).toMagnitude = m then
        some ⟨m.multiplesBelow exponent + 1, exponent⟩
      else none :=
  rfl

theorem exponent_of_pick? {m : Magnitude} {exponent : ℤ} {x : Scientific}
    (h : m.pick? exponent = some x) : x.exponent = exponent := by
  rw [pick?_eq] at h
  split_ifs at h <;> obtain rfl := Option.some.inj h <;> rfl

/-- Comparing multiples of a power of ten with a value can be done in units. -/
theorem mul_grid_le_iff (m : Magnitude) (exponent : ℤ) (n k : Nat) :
    n * (Scientific.grid exponent).1 ≤ k * (m.value * (Scientific.grid exponent).2) ↔
      (n : ℚ) * 10 ^ exponent ≤ k * m.toRat := by
  have hden : (0 : ℚ) < (Scientific.grid exponent).2 := Nat.cast_pos.2 (Scientific.grid_pos _)
  have hnum := (div_eq_iff hden.ne').1 (Scientific.grid_eq exponent)
  have hpos := unitsPerOne_pos
  have hleft : (n : ℚ) * (Scientific.grid exponent).1 =
      n * 10 ^ exponent * (unitsPerOne * (Scientific.grid exponent).2) := by
    rw [hnum]
    ring
  have hright : (k : ℚ) * (m.value * (Scientific.grid exponent).2) =
      k * m.toRat * (unitsPerOne * (Scientific.grid exponent).2) := by
    rw [toRat]
    field_simp
  rw [← mul_le_mul_iff_left₀ (mul_pos hpos hden), ← hleft, ← hright]
  exact_mod_cast Iff.rfl

theorem grid_fst_pos (exponent : ℤ) : 0 < (Scientific.grid exponent).1 :=
  Nat.mul_pos (Nat.two_pow_pos _) (Nat.pow_pos (by decide))

theorem toRat_multiplesBelow_le (m : Magnitude) (exponent : ℤ) :
    (Scientific.mk (m.multiplesBelow exponent) exponent).toRat ≤ m.toRat := by
  have h := (m.mul_grid_le_iff exponent (m.multiplesBelow exponent) 1).1
    (by rw [Nat.one_mul]; exact Nat.div_mul_le_self _ _)
  rwa [Nat.cast_one, one_mul] at h

theorem lt_toRat_multiplesBelow_succ (m : Magnitude) (exponent : ℤ) :
    m.toRat < (Scientific.mk (m.multiplesBelow exponent + 1) exponent).toRat := by
  have hlt : m.value * (Scientific.grid exponent).2 <
      (m.multiplesBelow exponent + 1) * (Scientific.grid exponent).1 := by
    rw [Nat.mul_comm (m.multiplesBelow exponent + 1)]
    exact Nat.lt_mul_div_succ _ (grid_fst_pos exponent)
  have h := mt (m.mul_grid_le_iff exponent (m.multiplesBelow exponent + 1) 1).2 (by omega)
  rwa [Nat.cast_one, one_mul, not_le] at h

/-- Which of the two multiples is nearer is a question of the remainder. -/
theorem grid_le_two_mul_mod_iff (m : Magnitude) (exponent : ℤ) :
    (Scientific.grid exponent).1 ≤
        2 * (m.value * (Scientific.grid exponent).2 % (Scientific.grid exponent).1) ↔
      (Scientific.mk (m.multiplesBelow exponent) exponent).toRat +
        (Scientific.mk (m.multiplesBelow exponent + 1) exponent).toRat ≤ 2 * m.toRat := by
  have h := m.mul_grid_le_iff exponent (2 * m.multiplesBelow exponent + 1) 2
  have hsum : (Scientific.mk (m.multiplesBelow exponent) exponent).toRat +
      (Scientific.mk (m.multiplesBelow exponent + 1) exponent).toRat =
      ((2 * m.multiplesBelow exponent + 1 : ℕ) : ℚ) * 10 ^ exponent := by
    simp only [Scientific.toRat]
    push_cast
    ring
  have hdivision := Nat.div_add_mod (m.value * (Scientific.grid exponent).2)
    (Scientific.grid exponent).1
  rw [Nat.mul_comm, ← multiplesBelow] at hdivision
  rw [Nat.cast_ofNat] at h
  rw [hsum, ← h, Nat.add_mul, Nat.mul_assoc, Nat.one_mul]
  omega

theorem toRat_le_toRat_of_le (exponent : ℤ) {c d : Nat} (h : c ≤ d) :
    (Scientific.mk c exponent).toRat ≤ (Scientific.mk d exponent).toRat :=
  mul_le_mul_of_nonneg_right (Nat.cast_le.2 h) (by positivity)

/-- **If any multiple of a power of ten is read as the magnitude, then one is picked**, and none
that is read so is nearer to the exact value. -/
theorem exists_pick? {m : Magnitude} {y : Scientific} (hy : y.toMagnitude = m) :
    ∃ x, m.pick? y.exponent = some x ∧ Nearer m.toRat x.toRat y.toRat := by
  obtain ⟨c, e⟩ := y
  have hbelow := m.toRat_multiplesBelow_le e
  have habove := m.lt_toRat_multiplesBelow_succ e
  have hnearer := m.grid_le_two_mul_mod_iff e
  simp only [pick?_eq, hnearer]
  rcases Nat.lt_or_ge (m.multiplesBelow e) c with hlt | hge
  · have hle := toRat_le_toRat_of_le e (Nat.succ_le_of_lt hlt)
    have hupper := toMagnitude_eq_of_ge hy habove.le hle
    have hfirst : Nearer m.toRat (Scientific.mk (m.multiplesBelow e + 1) e).toRat
        (Scientific.mk c e).toRat := by
      rcases hle.lt_or_eq with hlt | heq
      · exact .of_lt hlt (by linarith)
      · exact .inr ⟨by rw [heq], heq.ge⟩
    simp only [hupper, true_and, if_true]
    split_ifs with hlower hnear
    · exact ⟨_, rfl, hfirst⟩
    · exact ⟨_, rfl, .of_lt (by linarith) (by linarith)⟩
    · exact ⟨_, rfl, hfirst⟩
  · have hle := toRat_le_toRat_of_le e hge
    have hlower := toMagnitude_eq_of_le hy hle hbelow
    simp only [hlower, if_true]
    split_ifs with hupper
    · exact ⟨_, rfl, .of_ge (by linarith) (by linarith)⟩
    · exact ⟨_, rfl, .of_ge hle (by linarith)⟩

/-! ## The search -/

/-- On the finest grid the exact value is picked. -/
theorem pick?_finestExponent (m : Magnitude) : m.pick? finestExponent = some m.exact := by
  obtain ⟨⟨c, e⟩, hpick, hnearer⟩ := exists_pick? m.toMagnitude_exact
  obtain rfl : e = finestExponent := exponent_of_pick? hpick
  have hdistance : |(Scientific.mk c finestExponent).toRat - m.exact.toRat| ≤
      |m.exact.toRat - m.exact.toRat| := by
    rw [← m.toRat_exact] at hnearer
    rcases hnearer with h | ⟨h, -⟩
    exacts [h.le, h.le]
  rw [sub_self, abs_zero, abs_nonpos_iff, sub_eq_zero] at hdistance
  have hcoefficient := mul_right_cancel₀ (zpow_ne_zero finestExponent (by norm_num)) hdistance
  obtain rfl : c = 5 ^ unitPlaces * m.value := by exact_mod_cast hcoefficient
  exact hpick

/-- The search ends on a grid that has something to pick, after coarser ones that have not. -/
theorem pick?_searchFrom (m : Magnitude) (steps : Nat) :
    m.pick? (m.searchFrom steps).exponent = some (m.searchFrom steps) ∧
      ∀ e, (m.searchFrom steps).exponent < e → e ≤ finestExponent + steps → m.pick? e = none := by
  induction steps with
  | zero =>
    refine ⟨m.pick?_finestExponent, fun e hlt hle => ?_⟩
    rw [Nat.cast_zero, add_zero] at hle
    exact absurd hlt hle.not_gt
  | succ steps ih =>
    rcases hpick : m.pick? (finestExponent + (steps + 1 : Nat)) with _ | x
    · have hsearch : m.searchFrom (steps + 1) = m.searchFrom steps := by rw [searchFrom, hpick]
      rw [hsearch]
      refine ⟨ih.1, fun e hlt hle => ?_⟩
      rcases hle.lt_or_eq with hbelow | rfl
      · exact ih.2 e hlt (by omega)
      · exact hpick
    · have hsearch : m.searchFrom (steps + 1) = x := by rw [searchFrom, hpick]
      rw [hsearch, exponent_of_pick? hpick]
      exact ⟨hpick, fun e hlt hle => absurd hlt hle.not_gt⟩

/-- The search starts with a power of ten that is not below the value. -/
theorem toRat_le_top {m : Magnitude} (h : 0 < m.rank) :
    m.toRat ≤ 10 ^ (finestExponent + m.startingSteps) := by
  have hvalue : 0 < m.value := Nat.pos_of_ne_zero (mt value_eq_zero_iff.1 h.ne')
  have hone : 0 < unitsPerOne := Nat.two_pow_pos _
  rw [toRat, div_le_iff₀ unitsPerOne_pos, startingSteps]
  split_ifs with hlarge
  · have hlt := lt_pow_length_toDigits (m.value / unitsPerOne)
    rw [Nat.div_lt_iff_lt_mul hone] at hlt
    have htop : finestExponent +
        (unitPlaces + (Nat.toDigits 10 (m.value / unitsPerOne)).length : ℕ) =
        ((Nat.toDigits 10 (m.value / unitsPerOne)).length : ℕ) := by
      rw [finestExponent]
      omega
    rw [htop, zpow_natCast]
    exact_mod_cast hlt.le
  · have hquotient : unitsPerOne / m.value ≠ 0 := (Nat.div_pos (by omega) hvalue).ne'
    have hle := pow_length_toDigits_le hquotient
    have hdigits : (Nat.toDigits 10 (unitsPerOne / m.value)).length ≤ unitPlaces + 1 := by
      refine (Nat.length_toDigits_le_iff (by decide) (Nat.succ_pos _)).2 ?_
      calc unitsPerOne / m.value ≤ unitsPerOne := Nat.div_le_self _ _
        _ ≤ 10 ^ unitPlaces := Nat.pow_le_pow_left (by decide) _
        _ < 10 ^ (unitPlaces + 1) := Nat.pow_lt_pow_succ (by decide)
    have hpositive := List.length_pos_iff.2
      (Nat.toDigits_ne_nil : Nat.toDigits 10 (unitsPerOne / m.value) ≠ [])
    have htop : finestExponent +
        (unitPlaces + 1 - (Nat.toDigits 10 (unitsPerOne / m.value)).length : ℕ) =
        -((Nat.toDigits 10 (unitsPerOne / m.value)).length - 1 : ℕ) := by
      rw [finestExponent]
      omega
    rw [htop, zpow_neg, zpow_natCast, inv_mul_eq_div, le_div_iff₀ (by positivity)]
    rw [Nat.le_div_iff_mul_le hvalue, Nat.mul_comm] at hle
    exact_mod_cast hle

/-! ## How far a decimal can be from the magnitude it is read as -/

/-- Up to the first `2 ^ 52` of them, a rank is as many spacings above zero at least. -/
theorem mul_spacing_le_units {k rank : Nat} (hle : k ≤ rank) (hmantissa : k ≤ 2 ^ 52) :
    k * 2 ^ (rank / 2 ^ 52 - 1) ≤ units rank := by
  rcases Nat.lt_or_ge rank (2 ^ 53) with hsmall | hlarge
  · have hspacing : rank / 2 ^ 52 - 1 = 0 := by omega
    rw [hspacing, units_of_lt hsmall]
    omega
  · rw [units, if_neg (by omega)]
    exact Nat.mul_le_mul_right _ (by omega)

variable {m : Magnitude} {y : Scientific}

/-- A decimal exceeds the magnitude it is read as by half a spacing at most. -/
theorem two_mul_toRat_le (hfinite : m.isFinite = true) (hy : y.toMagnitude = m) :
    2 * (y.toRat * unitsPerOne) ≤ (2 * m.value + 2 ^ (m.rank / 2 ^ 52 - 1) : ℕ) := by
  subst hy
  have hupper := (Scientific.isNearest_toMagnitude hfinite).upper
  have hhalf : halfway y.toMagnitude.rank =
      2 * y.toMagnitude.value + 2 ^ (y.toMagnitude.rank / 2 ^ 52 - 1) := by
    rw [halfway, units_succ, value]
    omega
  rw [← hhalf]
  rcases hupper with h | ⟨h, -⟩
  exacts [h.le, h.le]

theorem two_mul_toRat_le_three_mul (hfinite : m.isFinite = true) (hpos : 0 < m.rank)
    (hy : y.toMagnitude = m) : 2 * y.toRat ≤ 3 * m.toRat := by
  have hspacing : (1 * 2 ^ (m.rank / 2 ^ 52 - 1) : ℕ) ≤ m.value :=
    mul_spacing_le_units hpos (by decide)
  have hle := (two_mul_toRat_le hfinite hy).trans
    (Nat.cast_le.2 (by omega : _ ≤ 3 * m.value))
  have hone := unitsPerOne_pos
  rw [toRat, ← mul_div_assoc, le_div_iff₀ hone]
  push_cast at hle
  linarith

theorem toRat_pos (hpos : 0 < m.rank) : 0 < m.toRat :=
  m.toRat_nonneg.lt_of_ne' (mt toRat_eq_zero_iff.1 hpos.ne')

theorem coefficient_pos (hpos : 0 < m.rank) (hy : y.toMagnitude = m) : 0 < y.coefficient := by
  obtain ⟨c, e⟩ := y
  refine Nat.pos_of_ne_zero fun hzero => ?_
  obtain rfl : c = 0 := hzero
  rw [Scientific.toMagnitude_zero] at hy
  exact hpos.ne (congrArg rank hy)

/-- The power of ten next above a unit, `10⁻³²³`, is about two units. -/
theorem exists_pow_near_two_units :
    ∃ k : ℤ, (2 : ℚ) ≤ 10 ^ k * unitsPerOne ∧ 10 ^ k * unitsPerOne ≤ (21 / 10 : ℚ) := by
  obtain ⟨n, hlow, hhigh⟩ :
      ∃ n : ℕ, 2 * 10 ^ n ≤ unitsPerOne ∧ unitsPerOne * 10 ≤ 21 * 10 ^ n := by
    unfold unitsPerOne unitPlaces
    exact ⟨323, by decide +kernel⟩
  refine ⟨-n, ?_, ?_⟩
  · rw [zpow_neg, zpow_natCast, inv_mul_eq_div, le_div_iff₀ (by positivity)]
    exact_mod_cast hlow
  · rw [zpow_neg, zpow_natCast, inv_mul_eq_div, div_le_div_iff₀ (by positivity) (by positivity)]
    exact_mod_cast hhigh

/-- A power of ten that is read as a magnitude exceeds it by little, so by little that nine tenths
of the power are not nearer. -/
theorem mul_pow_le_mul_toRat {k : ℤ} (hfinite : m.isFinite = true) (hpos : 0 < m.rank)
    (hk : (Scientific.mk 1 k).toMagnitude = m) : 19 * (10 : ℚ) ^ k ≤ 20 * m.toRat := by
  have hone := unitsPerOne_pos
  have hle := two_mul_toRat_le hfinite hk
  rw [Scientific.toRat, Nat.cast_one, one_mul] at hle
  rw [toRat, ← mul_div_assoc, le_div_iff₀ hone, mul_assoc]
  rcases Nat.lt_or_ge m.rank 10 with hsmall | hlarge
  · -- among the first few magnitudes, the spacing is wide, and there are few powers of ten
    have hspacing : m.rank / 2 ^ 52 - 1 = 0 := by omega
    have hvalue : m.value = m.rank := units_of_lt (by omega)
    rw [hspacing, Nat.pow_zero, hvalue] at hle
    rw [hvalue]
    obtain ⟨next, hlow, hhigh⟩ := exists_pow_near_two_units
    have hrank : (1 : ℚ) ≤ m.rank := Nat.one_le_cast.2 hpos
    have hrank' : (m.rank : ℚ) ≤ 9 := by exact_mod_cast Nat.le_of_lt_succ hsmall
    push_cast at hle
    rcases lt_trichotomy k next with hlt | rfl | hgt
    · have hpow : (10 : ℚ) ^ (k + 1) ≤ 10 ^ next :=
        zpow_le_zpow_right₀ (by norm_num) (by omega)
      rw [zpow_add_one₀ (by norm_num)] at hpow
      have hmul := mul_le_mul_of_nonneg_right hpow hone.le
      linarith
    · have htwo : (2 : ℚ) ≤ m.rank := by
        have hlt : (1 : ℚ) < m.rank := by linarith
        exact_mod_cast Nat.succ_le_of_lt (Nat.one_lt_cast.1 hlt)
      linarith
    · have hpow : (10 : ℚ) ^ (next + 1) ≤ 10 ^ k :=
        zpow_le_zpow_right₀ (by norm_num) (by omega)
      rw [zpow_add_one₀ (by norm_num)] at hpow
      have hmul := mul_le_mul_of_nonneg_right hpow hone.le
      linarith
  · have hspacing : ((10 * 2 ^ (m.rank / 2 ^ 52 - 1) : ℕ) : ℚ) ≤ m.value :=
      Nat.cast_le.2 (mul_spacing_le_units hlarge (by decide))
    push_cast at hle hspacing
    linarith

/-! ## Of all decimals -/

/-- No decimal on a coarser grid is read as the magnitude. -/
theorem exponent_le_exponent_shortest (hfinite : m.isFinite = true) (hpos : 0 < m.rank)
    (hy : y.toMagnitude = m) : y.exponent ≤ m.shortest.exponent := by
  by_contra hlt
  rcases lt_or_ge (finestExponent + m.startingSteps) y.exponent with habove | hwithin
  · -- there, every multiple but zero is ten times the value at least
    have hpow : (10 : ℚ) ^ (finestExponent + m.startingSteps + 1) ≤ 10 ^ y.exponent :=
      zpow_le_zpow_right₀ (by norm_num) habove
    have hmultiple : (10 : ℚ) ^ y.exponent ≤ y.toRat :=
      le_mul_of_one_le_left (by positivity) (Nat.one_le_cast.2 (coefficient_pos hpos hy))
    rw [zpow_add_one₀ (by norm_num)] at hpow
    have htop := toRat_le_top hpos
    have hbound := two_mul_toRat_le_three_mul hfinite hpos hy
    have hvalue := toRat_pos hpos
    linarith
  · obtain ⟨x, hpick, -⟩ := exists_pick? hy
    rw [(m.pick?_searchFrom _).2 _ (not_le.1 hlt) hwithin] at hpick
    exact absurd hpick (by simp)

/-- The last digit is not a zero. -/
theorem coefficient_shortest_mod_ne_zero (hfinite : m.isFinite = true) (hpos : 0 < m.rank) :
    m.shortest.coefficient % 10 ≠ 0 := by
  intro hzero
  obtain ⟨c, hc⟩ := Nat.dvd_of_mod_eq_zero hzero
  -- without it, the number is a decimal on a coarser grid
  have hvalue : (Scientific.mk c (m.shortest.exponent + 1)).toRat = m.shortest.toRat := by
    simp only [Scientific.toRat, hc]
    rw [zpow_add_one₀ (by norm_num)]
    push_cast
    ring
  have hread := Scientific.toMagnitude_eq_of_between m.toMagnitude_shortest m.toMagnitude_shortest
    hvalue.ge hvalue.le
  have hle := exponent_le_exponent_shortest hfinite hpos hread
  dsimp only at hle
  omega

/-- Of all that are read as the magnitude, none on the same grid is nearer. -/
theorem nearer_shortest (hy : y.toMagnitude = m) (he : y.exponent = m.shortest.exponent) :
    Nearer m.toRat m.shortest.toRat y.toRat := by
  obtain ⟨x, hpick, hnearer⟩ := exists_pick? hy
  rw [he] at hpick
  obtain rfl : m.shortest = x := Option.some.inj ((m.pick?_searchFrom _).1.symm.trans hpick)
  exact hnearer

/-- A decimal that is smaller for the number of its digits leaves room for a power of ten, which is
read as the magnitude, too.  So the shortest decimal has only one digit. -/
theorem digitCount_shortest_eq_one (hfinite : m.isFinite = true) (hpos : 0 < m.rank)
    (hy : y.toMagnitude = m)
    (hle : y.digitCount + y.exponent ≤ (m.shortest.digitCount - 1 : ℕ) + m.shortest.exponent) :
    m.shortest.digitCount = 1 ∧ (Scientific.mk 1 m.shortest.exponent).toMagnitude = m := by
  have hcoefficient := (coefficient_pos hpos m.toMagnitude_shortest).ne'
  have hone : ∀ k, (Scientific.mk 1 k).toRat = 10 ^ k := fun k => by
    rw [Scientific.toRat, Nat.cast_one, one_mul]
  have hbelow := y.toRat_lt_pow.le.trans (zpow_le_zpow_right₀ (by norm_num) hle)
  have habove := Scientific.pow_le_toRat hcoefficient
  rw [← hone] at hbelow habove
  have hread := Scientific.toMagnitude_eq_of_between hy m.toMagnitude_shortest hbelow habove
  have hexponent := exponent_le_exponent_shortest hfinite hpos hread
  have hpositive := m.shortest.digitCount_pos
  have hcount : m.shortest.digitCount - 1 = 0 := by
    dsimp only at hexponent
    omega
  rw [hcount, Nat.cast_zero, zero_add] at hread
  exact ⟨by omega, hread⟩

/-- **The decimal that is shown is the shortest** of those that are read as the magnitude, and of
the shortest the one nearest to the exact value. -/
theorem isShortest_shortest (hfinite : m.isFinite = true) (hpos : 0 < m.rank) :
    m.IsShortest m.shortest where
  reads_back := m.toMagnitude_shortest
  best y hy := by
    have hexponent := exponent_le_exponent_shortest hfinite hpos hy
    have hpositive := y.digitCount_pos
    have hcount : m.shortest.digitCount ≤ y.digitCount := by
      by_contra hmore
      have hone := (digitCount_shortest_eq_one hfinite hpos hy (by omega)).1
      omega
    rcases hcount.lt_or_eq with hlt | heq
    · exact .inl hlt
    refine .inr ⟨heq, ?_⟩
    rcases hexponent.lt_or_eq with hfiner | hsame
    · obtain ⟨hone, hread⟩ := digitCount_shortest_eq_one hfinite hpos hy (by omega)
      refine (nearer_shortest hread rfl).trans ?_
      -- the other decimal has one digit as well, so it is nine tenths of the power of ten at most
      have hdigit : (y.coefficient : ℚ) ≤ 9 := by
        have hlt := lt_pow_length_toDigits y.coefficient
        rw [← Scientific.digitCount, ← heq, hone] at hlt
        exact_mod_cast Nat.le_of_lt_succ hlt
      have hmultiple : y.toRat ≤ 9 * 10 ^ y.exponent :=
        mul_le_mul_of_nonneg_right hdigit (by positivity)
      have hpow : (10 : ℚ) ^ (y.exponent + 1) ≤ 10 ^ m.shortest.exponent :=
        zpow_le_zpow_right₀ (by norm_num) hfiner
      rw [zpow_add_one₀ (by norm_num)] at hpow
      have hvalue := mul_pow_le_mul_toRat hfinite hpos hread
      have hpower : (0 : ℚ) < 10 ^ m.shortest.exponent := by positivity
      rw [Scientific.toRat, Nat.cast_one, one_mul]
      exact .of_ge (by linarith) (by linarith)
    · exact nearer_shortest hy hsame

end Magnitude

end StackCalculator
