import StackCalculator.Double.Decimal
import StackCalculator.Proofs.Double.Rounding

/-!
# Correct rounding

Reading a decimal text ends in one rounding.  What it ought to be is said here with exact numbers:
no finite double is nearer, a tie goes to the even significand, and infinity begins half a step past
the largest finite double.  That is `Double.RoundsTo`, and it knows nothing of ranks and units.

* `Magnitude.exists_toRat_eq_iff` — the finite magnitudes are the numbers of the binary64 format,
  and `Magnitude.toRat_eq_significand_mul` takes one apart into significand and exponent.
* `Double.RoundsTo.unique` — a number and a sign leave no choice.
* `Magnitude.IsNearest.lt_rank_iff` — from which point on a number rounds past a given rank.  With
  the ranks at both ends of the ladder, this is where infinity begins and where zero ends:
  `Magnitude.nearest_eq_infinity_iff`, `Scientific.toMagnitude_eq_zero_iff`.
* `Double.roundsTo_nearest` — what `Magnitude.nearest` computes is the correctly rounded double.
* `Decimal.roundsTo_toDouble` — **a decimal is read as the correctly rounded double.**
* `Decimal.toDouble_atMost` — **reading keeps the order**, in the numeric order of the doubles with
  both infinities.
-/

set_option autoImplicit false

namespace StackCalculator

/-! ## The numbers of the format -/

namespace Magnitude

/-- The 53 binary digits of the value, the first of which is a one unless the number is
subnormal. -/
def significand (m : Magnitude) : Nat :=
  if m.rank < 2 ^ 52 then m.rank else 2 ^ 52 + m.rank % 2 ^ 52

/-- The power of two that the last digit of the significand counts. -/
def exponent (m : Magnitude) : ℤ := (m.rank / 2 ^ 52 - 1 : ℕ) - 1074

theorem significand_lt (m : Magnitude) : m.significand < 2 ^ 53 := by
  rw [significand]
  split <;> omega

/-- The even significands are at the even ranks. -/
theorem significand_mod_two (m : Magnitude) : m.significand % 2 = m.rank % 2 := by
  rw [significand]
  split <;> omega

theorem value_eq_significand_mul (m : Magnitude) :
    m.value = m.significand * 2 ^ (m.rank / 2 ^ 52 - 1) := by
  rw [value, units, significand]
  rcases Nat.lt_or_ge m.rank (2 ^ 53) with hfirst | hlater
  · have hexp : m.rank / 2 ^ 52 - 1 = 0 := by omega
    rw [if_pos hfirst, hexp, Nat.pow_zero, Nat.mul_one]
    split <;> omega
  · rw [if_neg (by omega), if_neg (by omega)]

theorem cast_unitsPerOne : (unitsPerOne : ℚ) = 2 ^ 1074 := by
  rw [unitsPerOne, Nat.cast_pow, Nat.cast_ofNat, unitPlaces]

/-- So many units make up a power of two. -/
theorem two_pow_div_unitsPerOne (f s : ℕ) :
    ((f * 2 ^ s : ℕ) : ℚ) / unitsPerOne = f * 2 ^ ((s : ℤ) - 1074) := by
  rw [cast_unitsPerOne, zpow_sub₀ two_ne_zero, zpow_natCast, zpow_ofNat, Nat.cast_mul, Nat.cast_pow,
    Nat.cast_ofNat, mul_div_assoc]

theorem toRat_eq_significand_mul (m : Magnitude) : m.toRat = m.significand * 2 ^ m.exponent := by
  rw [toRat, value_eq_significand_mul, two_pow_div_unitsPerOne, exponent]

/-- A significand stands at some rank, shifted by as many places as there are. -/
theorem exists_units_eq {f : Nat} (s : Nat) (hf : f < 2 ^ 53) :
    ∃ rank, rank < (s + 2) * 2 ^ 52 ∧ units rank = f * 2 ^ s := by
  induction s generalizing f with
  | zero => exact ⟨f, by omega, by rw [units_of_lt hf, Nat.pow_zero, Nat.mul_one]⟩
  | succ s ih =>
    rcases Nat.lt_or_ge f (2 ^ 52) with hlow | hhigh
    · -- the first digit is missing, so there is room to shift by one place
      obtain ⟨rank, hrank, hunits⟩ := ih (by omega : 2 * f < 2 ^ 53)
      refine ⟨rank, hrank.trans_le (Nat.mul_le_mul_right _ (by omega)), ?_⟩
      rw [hunits, Nat.pow_succ]
      ac_rfl
    · exact ⟨(s + 1) * 2 ^ 52 + f, by omega, units_of_significand _ _ hhigh hf⟩

/-- **The finite magnitudes are the numbers of the format**: 53 binary digits, the last of which
counts a power of two from `2⁻¹⁰⁷⁴` to `2⁹⁷¹`. -/
theorem exists_toRat_eq_iff {q : ℚ} :
    (∃ m : Magnitude, m.isFinite = true ∧ m.toRat = q) ↔
      ∃ (f : ℕ) (e : ℤ), f < 2 ^ 53 ∧ -1074 ≤ e ∧ e ≤ 971 ∧ q = f * 2 ^ e := by
  constructor
  · rintro ⟨m, hfinite, rfl⟩
    have hrank : m.rank < 2047 * 2 ^ 52 := of_decide_eq_true hfinite
    refine ⟨m.significand, m.exponent, m.significand_lt, ?_, ?_, m.toRat_eq_significand_mul⟩
    · rw [exponent]
      omega
    · rw [exponent]
      omega
  · rintro ⟨f, e, hf, hlow, hhigh, rfl⟩
    obtain ⟨s, rfl⟩ : ∃ s : ℕ, e = s - 1074 := ⟨(e + 1074).toNat, by omega⟩
    obtain ⟨rank, hrank, hunits⟩ := exists_units_eq s hf
    have hlt : rank < infinityRank :=
      hrank.trans_le (Nat.mul_le_mul_right _ (by omega : s + 2 ≤ 2047))
    refine ⟨⟨rank, hlt.le⟩, decide_eq_true hlt, ?_⟩
    rw [toRat, value, hunits, two_pow_div_unitsPerOne]

theorem toRat_lt_toRat {m n : Magnitude} (h : m.rank < n.rank) : m.toRat < n.toRat :=
  div_lt_div_of_pos_right (Nat.cast_lt.2 (units_lt_units h)) unitsPerOne_pos

theorem toRat_le_toRat {m n : Magnitude} (h : m.rank ≤ n.rank) : m.toRat ≤ n.toRat := by
  rcases h.lt_or_eq with hlt | heq
  · exact (toRat_lt_toRat hlt).le
  · exact (congrArg toRat (Magnitude.ext heq)).le

theorem toRat_injective : Function.Injective toRat := by
  intro m n h
  rcases Nat.lt_trichotomy m.rank n.rank with hlt | heq | hgt
  · exact absurd h (toRat_lt_toRat hlt).ne
  · exact Magnitude.ext heq
  · exact absurd h (toRat_lt_toRat hgt).ne'

theorem eq_infinity_of_not_isFinite {m : Magnitude} (h : m.isFinite ≠ true) : m = .infinity :=
  Magnitude.ext (m.rank_le.antisymm (Nat.not_lt.1 fun hlt => h (decide_eq_true hlt)))

end Magnitude

/-! ## Distances -/

section Distances

variable {q a b : ℚ}

theorem abs_sub_lt_iff_left (h : a < b) : |q - a| < |q - b| ↔ 2 * q < a + b := by
  rw [← sq_lt_sq]
  constructor <;> intro <;> nlinarith

theorem abs_sub_lt_iff_right (h : a < b) : |q - b| < |q - a| ↔ a + b < 2 * q := by
  rw [← sq_lt_sq]
  constructor <;> intro <;> nlinarith

theorem abs_sub_eq_iff (h : a < b) : |q - a| = |q - b| ↔ 2 * q = a + b := by
  rw [← sq_eq_sq_iff_abs_eq_abs]
  constructor <;> intro <;> nlinarith

/-- Between two numbers at the same distance, every number is nearer. -/
theorem abs_sub_lt_of_between {x : ℚ} (hax : a < x) (hxb : x < b) (htie : |q - a| = |q - b|) :
    |q - x| < |q - a| := by
  have hmiddle := (abs_sub_eq_iff (hax.trans hxb)).1 htie
  exact (abs_sub_lt_iff_right hax).2 (by linarith)

/-- Only zero is as near to a number as to its opposite. -/
theorem eq_zero_of_abs_sub_eq_neg (ha : a ≠ 0) (h : |q - a| = |q - -a|) : q = 0 := by
  rcases abs_eq_abs.1 h with hsame | hopposite
  · exact absurd (by linarith) ha
  · linarith

/-- A number of the given absolute value, negative or not. -/
def withSign (negative : Bool) (a : ℚ) : ℚ := if negative then -a else a

theorem abs_withSign (negative : Bool) (ha : 0 ≤ a) : |withSign negative a| = a := by
  cases negative
  · exact abs_of_nonneg ha
  · exact (abs_neg a).trans (abs_of_nonneg ha)

/-- Between numbers of one sign, the sign does not matter for the distance. -/
theorem abs_withSign_sub (negative : Bool) (a b : ℚ) :
    |withSign negative a - withSign negative b| = |a - b| := by
  cases negative
  · rfl
  · exact (congrArg abs (neg_sub_neg a b)).trans (abs_sub_comm b a)

/-- Different signs only add to it. -/
theorem abs_sub_le_withSign (negative negative' : Bool) (ha : 0 ≤ a) (hb : 0 ≤ b) :
    |a - b| ≤ |withSign negative a - withSign negative' b| := by
  have h := abs_abs_sub_abs_le_abs_sub (withSign negative a) (withSign negative' b)
  rwa [abs_withSign _ ha, abs_withSign _ hb] at h

theorem withSign_eq_zero_iff {negative : Bool} : withSign negative a = 0 ↔ a = 0 := by
  cases negative
  · exact Iff.rfl
  · exact neg_eq_zero

theorem withSign_inv (negative : Bool) (a : ℚ) :
    (withSign negative a)⁻¹ = withSign negative a⁻¹ := by
  cases negative
  · rfl
  · exact inv_neg

theorem withSign_eq_neg {negative negative' : Bool} (h : negative ≠ negative') (a : ℚ) :
    withSign negative a = -withSign negative' a := by
  cases negative <;> cases negative' <;> simp_all [withSign]

end Distances

/-! ## Correct rounding -/

namespace Double

theorem toRat?_signed {m : Magnitude} (negative : Bool) (h : m.isFinite = true) :
    (Double.signed negative m).toRat? = some (withSign negative m.toRat) :=
  if_pos h

theorem exists_of_toRat? {y : Double} {r : ℚ} (h : y.toRat? = some r) :
    ∃ negative m, y = .signed negative m ∧ m.isFinite = true ∧ r = withSign negative m.toRat := by
  cases y with
  | nan => cases h
  | signed negative m =>
    rw [toRat?] at h
    split at h
    · rename_i hfinite
      exact ⟨negative, m, rfl, hfinite, (Option.some.inj h).symm⟩
    · cases h

/-- Of all finite doubles, none is nearer to a number than this one, and if another one is as near,
then this one is even. -/
structure Closest (q : ℚ) (negative : Bool) (m : Magnitude) : Prop where
  /-- No finite double is nearer. -/
  nearest : ∀ (y : Double) (r : ℚ), y.toRat? = some r →
    |q - withSign negative m.toRat| ≤ |q - r|
  /-- If a different number is as near, then the significand is even. -/
  even : ∀ (y : Double) (r : ℚ), y.toRat? = some r → r ≠ withSign negative m.toRat →
    |q - withSign negative m.toRat| = |q - r| → m.significand % 2 = 0

/-- What a number is rounded to, if it is done correctly.  The sign is that of the number, and
stands for itself where the number is zero. -/
inductive RoundsTo (negative : Bool) (q : ℚ) : Double → Prop
  /-- From half a step past the largest finite double on, this is infinity. -/
  | overflow (hq : 2 ^ 1024 - 2 ^ 970 ≤ |q|) : RoundsTo negative q (.signed negative .infinity)
  /-- Below, it is the nearest finite double, and on a tie the even one. -/
  | finite {m : Magnitude} (hq : |q| < 2 ^ 1024 - 2 ^ 970) (hfinite : m.isFinite = true)
      (hclosest : Closest q negative m) : RoundsTo negative q (.signed negative m)

section Closest

variable {negative : Bool} {q : ℚ} {m n : Magnitude}

/-- If another one of the same sign is as near, then it is a neighbour: otherwise there was a nearer
one between them. -/
theorem Closest.rank_eq_succ (h : Closest q negative m) (hlt : m.rank < n.rank)
    (hfinite : n.isFinite = true)
    (htie : |q - withSign negative m.toRat| = |q - withSign negative n.toRat|) :
    n.rank = m.rank + 1 := by
  by_contra hne
  have hrank : n.rank < Magnitude.infinityRank := of_decide_eq_true hfinite
  obtain ⟨mid, hmid⟩ : ∃ mid : Magnitude, mid.rank = m.rank + 1 := ⟨⟨m.rank + 1, by omega⟩, rfl⟩
  have hbelow : m.toRat < mid.toRat := Magnitude.toRat_lt_toRat (by omega)
  have habove : mid.toRat < n.toRat := Magnitude.toRat_lt_toRat (by omega)
  have hmidFinite : mid.isFinite = true := decide_eq_true (by omega)
  refine absurd (h.nearest _ _ (toRat?_signed negative hmidFinite)) (not_le.2 ?_)
  cases negative with
  | false => exact abs_sub_lt_of_between hbelow habove htie
  | true =>
    rw [htie]
    exact abs_sub_lt_of_between (neg_lt_neg habove) (neg_lt_neg hbelow) htie.symm

/-- Two of the same sign are not both the closest, since neighbours are not both even. -/
theorem Closest.unique (hm : Closest q negative m) (hn : Closest q negative n)
    (hmFinite : m.isFinite = true) (hnFinite : n.isFinite = true) : m = n := by
  have htie : |q - withSign negative m.toRat| = |q - withSign negative n.toRat| :=
    (hm.nearest _ _ (toRat?_signed negative hnFinite)).antisymm
      (hn.nearest _ _ (toRat?_signed negative hmFinite))
  by_contra hne
  have hvalue : withSign negative m.toRat ≠ withSign negative n.toRat := by
    intro h
    have habs := congrArg abs h
    rw [abs_withSign _ m.toRat_nonneg, abs_withSign _ n.toRat_nonneg] at habs
    exact hne (Magnitude.toRat_injective habs)
  have hmEven := hm.even _ _ (toRat?_signed negative hnFinite) hvalue.symm htie
  have hnEven := hn.even _ _ (toRat?_signed negative hmFinite) hvalue htie.symm
  rw [Magnitude.significand_mod_two] at hmEven hnEven
  rcases Nat.lt_or_gt_of_ne (mt Magnitude.ext hne) with hlt | hgt
  · have hsucc := hm.rank_eq_succ hlt hnFinite htie
    omega
  · have hsucc := hn.rank_eq_succ hgt hmFinite htie.symm
    omega

end Closest

/-- **A number and a sign leave no choice.** -/
theorem RoundsTo.unique {negative : Bool} {q : ℚ} {x y : Double} (hx : RoundsTo negative q x)
    (hy : RoundsTo negative q y) : x = y := by
  cases hx with
  | overflow hq =>
    cases hy with
    | overflow => rfl
    | finite hq' => exact absurd hq (not_le.2 hq')
  | finite hq hfinite hclosest =>
    cases hy with
    | overflow hq' => exact absurd hq' (not_le.2 hq)
    | finite hq' hfinite' hclosest' => rw [hclosest.unique hclosest' hfinite hfinite']

end Double

/-! ## The ranks around a number -/

namespace Magnitude

namespace IsNearest

variable {u : ℚ} {rank : Nat}

/-- A number rounds past a rank if it lies beyond the point halfway to the next, or on this point if
the rank is odd. -/
theorem lt_rank_iff (h : IsNearest u rank) (low : Nat) :
    low < rank ↔ (halfway low : ℚ) < 2 * u ∨ (halfway low : ℚ) = 2 * u ∧ low % 2 = 1 := by
  have hmono : ∀ {low high : Nat}, low < high → (halfway low : ℚ) < halfway high :=
    fun hlt => Nat.cast_lt.2 (halfway_lt_halfway hlt)
  constructor
  · intro hlt
    obtain ⟨below, rfl⟩ : ∃ below, rank = below + 1 := ⟨rank - 1, by omega⟩
    have hlower := h.lower below rfl
    rcases Nat.lt_or_ge low below with hbelow | hge
    · left
      have := hmono hbelow
      rcases hlower with hlower | ⟨hlower, -⟩ <;> linarith
    · obtain rfl : low = below := by omega
      exact hlower.imp_right fun ⟨hhalf, heven⟩ => ⟨hhalf, by omega⟩
  · intro hbeyond
    by_contra hle
    have hupper := h.upper
    rcases (Nat.le_of_not_lt hle).lt_or_eq with hlt | rfl
    · have := hmono hlt
      rcases hbeyond with hbeyond | ⟨hbeyond, -⟩ <;> rcases hupper with hupper | ⟨hupper, -⟩ <;>
        linarith
    · rcases hbeyond with hbeyond | ⟨hbeyond, hodd⟩
      · rcases hupper with hupper | ⟨hupper, -⟩ <;> linarith
      · rcases hupper with hupper | ⟨-, heven⟩
        · linarith
        · omega

/-- Any other rank is further away, or as far if the nearest one is even. -/
theorem abs_sub_lt_or (h : IsNearest u rank) {other : Nat} (hne : other ≠ rank) :
    |u - units rank| < |u - units other| ∨
      |u - units rank| = |u - units other| ∧ rank % 2 = 0 := by
  have hhalfway : ∀ low, (halfway low : ℚ) = units low + units (low + 1) := fun low =>
    Nat.cast_add _ _
  rcases Nat.lt_or_gt_of_ne hne with hlt | hgt
  · obtain ⟨low, rfl⟩ : ∃ low, rank = low + 1 := ⟨rank - 1, by omega⟩
    have hunits : (units other : ℚ) < units (low + 1) := Nat.cast_lt.2 (units_lt_units hlt)
    have hlower := h.lower low rfl
    rw [hhalfway] at hlower
    rcases (Nat.le_of_lt_succ hlt).lt_or_eq with hfar | rfl
    · have hbelow : (units other : ℚ) < units low := Nat.cast_lt.2 (units_lt_units hfar)
      refine .inl ((abs_sub_lt_iff_right hunits).2 ?_)
      rcases hlower with hlower | ⟨hlower, -⟩ <;> linarith
    · exact hlower.imp (abs_sub_lt_iff_right hunits).2
        (And.imp_left fun heq => ((abs_sub_eq_iff hunits).2 heq.symm).symm)
  · have hunits : (units rank : ℚ) < units other := Nat.cast_lt.2 (units_lt_units hgt)
    have hupper := h.upper
    rw [hhalfway] at hupper
    rcases (Nat.succ_le_of_lt hgt).lt_or_eq with hfar | rfl
    · have habove : (units (rank + 1) : ℚ) < units other := Nat.cast_lt.2 (units_lt_units hfar)
      refine .inl ((abs_sub_lt_iff_left hunits).2 ?_)
      rcases hupper with hupper | ⟨hupper, -⟩ <;> linarith
    · exact hupper.imp (abs_sub_lt_iff_left hunits).2
        (And.imp_left (abs_sub_eq_iff hunits).2)

end IsNearest

/-- The distance to a magnitude, in units. -/
theorem abs_sub_toRat (q : ℚ) (m : Magnitude) :
    |q - m.toRat| = |q * unitsPerOne - units m.rank| / unitsPerOne := by
  have hpos := unitsPerOne_pos
  rw [← abs_of_pos hpos, ← abs_div, abs_of_pos hpos, sub_div, mul_div_cancel_right₀ _ hpos.ne']
  rfl

/-- Any other magnitude is further away, or as far if the nearest one is even. -/
theorem IsNearest.abs_sub_toRat_lt_or {q : ℚ} {m : Magnitude}
    (h : IsNearest (q * unitsPerOne) m.rank) {n : Magnitude} (hne : n ≠ m) :
    |q - m.toRat| < |q - n.toRat| ∨ |q - m.toRat| = |q - n.toRat| ∧ m.significand % 2 = 0 := by
  rw [abs_sub_toRat, abs_sub_toRat, significand_mod_two, div_lt_div_iff_of_pos_right unitsPerOne_pos,
    div_left_inj' unitsPerOne_pos.ne']
  exact h.abs_sub_lt_or (mt Magnitude.ext hne)

/-- The point halfway from the largest finite magnitude to infinity. -/
theorem halfway_largest : (halfway (infinityRank - 1) : ℚ) =
    2 * ((2 ^ 1024 - 2 ^ 970) * unitsPerOne) := by
  have hlargest : infinityRank - 1 = 2045 * 2 ^ 52 + (2 ^ 53 - 1) := by decide
  have hinfinity : infinityRank - 1 + 1 = 2046 * 2 ^ 52 + 2 ^ 52 := by decide
  have hunits : ∀ s f : ℕ, 2 ^ 52 ≤ f → f < 2 ^ 53 → (units (s * 2 ^ 52 + f) : ℚ) = f * 2 ^ s := by
    intro s f hlow hhigh
    rw [units_of_significand s f hlow hhigh, Nat.cast_mul, Nat.cast_pow, Nat.cast_ofNat]
  have hpow : (2 : ℚ) ^ 2045 = 2 * 2 ^ 970 * 2 ^ 1074 := by rw [← pow_succ', ← pow_add]
  have hpow' : (2 : ℚ) ^ 2046 = 2 ^ 2 * 2 ^ 970 * 2 ^ 1074 := by rw [← pow_add, ← pow_add]
  have hnext : (2 : ℚ) ^ 1024 = 2 ^ 54 * 2 ^ 970 := by rw [← pow_add]
  rw [halfway, hinfinity, hlargest, Nat.cast_add, hunits _ _ (by decide) (by decide),
    hunits _ _ (by decide) (by decide), cast_unitsPerOne, hpow, hpow', hnext]
  generalize (2 : ℚ) ^ 970 = step, (2 : ℚ) ^ 1074 = one
  push_cast
  ring

/-- **Where infinity begins.** -/
theorem nearest_eq_infinity_iff (num : Nat) {den : Nat} (hden : 0 < den) :
    nearest num den = .infinity ↔ 2 ^ 1024 - 2 ^ 970 ≤ (num : ℚ) / den / unitsPerOne := by
  have hodd : (infinityRank - 1) % 2 = 1 := by decide
  have hrank : nearest num den = .infinity ↔ infinityRank - 1 < nearestRank num den := by
    have hinfinity : 0 < infinityRank := by decide
    rw [Magnitude.ext_iff, nearest, infinity, min_eq_right_iff]
    omega
  rw [hrank, (isNearest_nearestRank num hden).lt_rank_iff, halfway_largest, and_iff_left hodd,
    ← le_iff_lt_or_eq, mul_le_mul_iff_right₀ two_pos, le_div_iff₀ unitsPerOne_pos]

/-- Half a unit. -/
theorem halfway_zero : (halfway 0 : ℚ) = 2 * (1 / 2 ^ 1075 * unitsPerOne) := by
  have hunits : halfway 0 = 1 := by decide
  have hpow : (2 : ℚ) ^ 1075 = 2 * 2 ^ 1074 := by rw [← pow_succ']
  rw [hunits, cast_unitsPerOne, hpow]
  field_simp
  norm_num

end Magnitude

namespace Scientific

/-- Without a limit, a decimal would be read as the rank nearest to it. -/
def unboundedRank (x : Scientific) : Nat :=
  Magnitude.nearestRank (x.coefficient * (grid x.exponent).1) (grid x.exponent).2

theorem rank_toMagnitude (x : Scientific) :
    x.toMagnitude.rank = min x.unboundedRank Magnitude.infinityRank := rfl

theorem isNearest_unboundedRank (x : Scientific) :
    Magnitude.IsNearest (x.toRat * Magnitude.unitsPerOne) x.unboundedRank := by
  rw [← units_eq]
  exact Magnitude.isNearest_nearestRank _ (grid_pos _)

/-- The exact value of the fraction that is rounded when a decimal is read. -/
theorem value_eq (x : Scientific) :
    ((x.coefficient * (grid x.exponent).1 : ℕ) : ℚ) / (grid x.exponent).2 / Magnitude.unitsPerOne =
      x.toRat := by
  rw [units_eq, mul_div_cancel_right₀ _ Magnitude.unitsPerOne_pos.ne']

theorem toMagnitude_eq_infinity_iff {x : Scientific} :
    x.toMagnitude = .infinity ↔ 2 ^ 1024 - 2 ^ 970 ≤ x.toRat := by
  rw [← value_eq]
  exact Magnitude.nearest_eq_infinity_iff _ (grid_pos _)

/-- **Where zero ends.** -/
theorem toMagnitude_eq_zero_iff {x : Scientific} :
    x.toMagnitude = .zero ↔ x.toRat ≤ 1 / 2 ^ 1075 := by
  have hpos := Magnitude.unitsPerOne_pos
  have hrank : x.toMagnitude = .zero ↔ ¬ 0 < x.unboundedRank := by
    have hinfinity : 0 < Magnitude.infinityRank := by decide
    rw [Magnitude.ext_iff, rank_toMagnitude]
    show min x.unboundedRank Magnitude.infinityRank = 0 ↔ _
    omega
  rw [hrank, x.isNearest_unboundedRank.lt_rank_iff, Magnitude.halfway_zero]
  simp only [Nat.zero_mod, zero_ne_one, and_false, or_false, not_lt]
  rw [mul_le_mul_iff_right₀ two_pos, mul_le_mul_iff_left₀ hpos]

theorem toRat_nonneg (x : Scientific) : 0 ≤ x.toRat := by
  rw [toRat]
  positivity

end Scientific

namespace Double

/-- What the nearest magnitude is to the absolute value, the double with the sign is to the
number. -/
theorem closest_of_isNearest (negative : Bool) {a : ℚ} {m : Magnitude} (ha : 0 ≤ a)
    (h : Magnitude.IsNearest (a * Magnitude.unitsPerOne) m.rank) (hzero : a = 0 → m = .zero) :
    Closest (withSign negative a) negative m where
  nearest y r hr := by
    obtain ⟨negative', n, -, -, rfl⟩ := exists_of_toRat? hr
    have hmagnitude : |a - m.toRat| ≤ |a - n.toRat| := by
      rcases eq_or_ne n m with rfl | hne
      · exact le_rfl
      · exact (h.abs_sub_toRat_lt_or hne).elim le_of_lt fun htie => htie.1.le
    rw [abs_withSign_sub]
    exact hmagnitude.trans (abs_sub_le_withSign _ _ ha n.toRat_nonneg)
  even y r hr hne htie := by
    obtain ⟨negative', n, -, -, rfl⟩ := exists_of_toRat? hr
    rcases eq_or_ne n m with rfl | hnm
    · -- the double and its opposite are as near, so the number is zero
      have hsign : negative' ≠ negative := fun hsame => hne (by rw [hsame])
      rw [withSign_eq_neg hsign] at hne htie
      have hq := eq_zero_of_abs_sub_eq_neg (mt (fun h => by rw [h, neg_zero]) hne) htie
      rw [hzero (by rw [← abs_withSign negative ha, hq, abs_zero])]
      rfl
    · have hle := abs_sub_le_withSign negative negative' ha n.toRat_nonneg
      rw [← htie, abs_withSign_sub] at hle
      exact (h.abs_sub_toRat_lt_or hnm).elim (fun hlt => absurd hle (not_le.2 hlt)) And.right

/-- What a fraction is rounded to, with a sign, is the correctly rounded double. -/
theorem roundsTo_nearest (negative : Bool) (num : Nat) {den : Nat} (hden : 0 < den) :
    RoundsTo negative (withSign negative (num / den / Magnitude.unitsPerOne))
      (.signed negative (Magnitude.nearest num den)) := by
  have hpos := Magnitude.unitsPerOne_pos
  have hnonneg : (0 : ℚ) ≤ num / den / Magnitude.unitsPerOne := by positivity
  have habs := abs_withSign negative hnonneg
  by_cases hfinite : (Magnitude.nearest num den).isFinite = true
  · refine .finite ?_ hfinite (closest_of_isNearest negative hnonneg ?_ fun hzero => ?_)
    · rw [habs, ← not_le, ← Magnitude.nearest_eq_infinity_iff num hden]
      intro hinfinity
      rw [hinfinity] at hfinite
      exact absurd hfinite (by decide)
    · rw [div_mul_cancel₀ _ hpos.ne']
      exact Magnitude.isNearest_nearest num hden hfinite
    · obtain rfl : num = 0 := by simpa [hden.ne', hpos.ne'] using hzero
      exact Magnitude.nearest_zero hden
  · have hinfinity := Magnitude.eq_infinity_of_not_isFinite hfinite
    rw [hinfinity]
    exact .overflow (habs.symm ▸ (Magnitude.nearest_eq_infinity_iff num hden).1 hinfinity)

theorem roundsTo_toMagnitude (negative : Bool) (x : Scientific) :
    RoundsTo negative (withSign negative x.toRat) (.signed negative x.toMagnitude) := by
  rw [← x.value_eq]
  exact roundsTo_nearest negative _ (Scientific.grid_pos _)

end Double

/-! ## The numeric order -/

namespace Double

/-- The numeric order of the doubles, with an infinity at either end and without NaN. -/
inductive AtMost : Double → Double → Prop
  /-- Finite doubles are compared by their exact values, so zeros of both signs agree. -/
  | finite {x y : Double} {q r : ℚ} (hx : x.toRat? = some q) (hy : y.toRat? = some r)
      (h : q ≤ r) : AtMost x y
  /-- Nothing is less than negative infinity. -/
  | bottom {y : Double} (hy : y ≠ .nan) : AtMost (.signed true .infinity) y
  /-- Nothing is greater than positive infinity. -/
  | top {x : Double} (hx : x ≠ .nan) : AtMost x (.signed false .infinity)

/-- A rank that is not greater means a double that is not greater, or not less if it is
negative. -/
theorem atMost_of_rank_le {m n : Magnitude} (h : m.rank ≤ n.rank) :
    AtMost (.signed false m) (.signed false n) ∧ AtMost (.signed true n) (.signed true m) := by
  by_cases hn : n.isFinite = true
  · have hm : m.isFinite = true := decide_eq_true (h.trans_lt (of_decide_eq_true hn))
    have hle := Magnitude.toRat_le_toRat h
    exact ⟨.finite (toRat?_signed _ hm) (toRat?_signed _ hn) hle,
      .finite (toRat?_signed _ hn) (toRat?_signed _ hm) (neg_le_neg hle)⟩
  · obtain rfl := Magnitude.eq_infinity_of_not_isFinite hn
    exact ⟨.top nofun, .bottom nofun⟩

/-- A negative double is at most one that is not. -/
theorem atMost_of_negative (m n : Magnitude) : AtMost (.signed true m) (.signed false n) := by
  by_cases hm : m.isFinite = true
  · by_cases hn : n.isFinite = true
    · exact .finite (toRat?_signed _ hm) (toRat?_signed _ hn)
        ((neg_nonpos.2 m.toRat_nonneg).trans n.toRat_nonneg)
    · obtain rfl := Magnitude.eq_infinity_of_not_isFinite hn
      exact .top nofun
  · obtain rfl := Magnitude.eq_infinity_of_not_isFinite hm
    exact .bottom nofun

end Double

/-! ## Decimals -/

namespace Decimal

/-- The decimal without its sign. -/
def unsigned (d : Decimal) : Scientific := ⟨d.coefficient, -d.places⟩

/-- The exact value. -/
def toRat (d : Decimal) : ℚ := withSign d.negative (d.coefficient / 10 ^ d.places)

theorem toRat_eq (d : Decimal) : d.toRat = withSign d.negative d.unsigned.toRat := by
  have hvalue : d.unsigned.toRat = d.coefficient / 10 ^ d.places := by
    rw [Scientific.toRat, unsigned, zpow_neg, zpow_natCast, div_eq_mul_inv]
  rw [toRat, hvalue]

theorem abs_toRat (d : Decimal) : |d.toRat| = d.unsigned.toRat := by
  rw [toRat_eq, abs_withSign _ d.unsigned.toRat_nonneg]

theorem toDouble_eq (d : Decimal) :
    d.toDouble = .signed d.negative d.unsigned.toMagnitude := by
  have hgrid : Scientific.grid (-d.places) = (Magnitude.unitsPerOne, 10 ^ d.places) := by
    simp [Scientific.grid]
  rw [toDouble, unsigned, Scientific.toMagnitude, hgrid, Nat.mul_comm]

/-- **A decimal is read as the correctly rounded double.** -/
theorem roundsTo_toDouble (d : Decimal) : Double.RoundsTo d.negative d.toRat d.toDouble := by
  rw [toRat_eq, toDouble_eq]
  exact Double.roundsTo_toMagnitude _ _

theorem toDouble_eq_infinity_iff {d : Decimal} :
    d.toDouble = .signed d.negative .infinity ↔ 2 ^ 1024 - 2 ^ 970 ≤ |d.toRat| := by
  rw [toDouble_eq, abs_toRat, ← Scientific.toMagnitude_eq_infinity_iff]
  simp

theorem toDouble_eq_zero_iff {d : Decimal} :
    d.toDouble = .signed d.negative .zero ↔ |d.toRat| ≤ 1 / 2 ^ 1075 := by
  rw [toDouble_eq, abs_toRat, ← Scientific.toMagnitude_eq_zero_iff]
  simp

/-- Decimals of the same sign and the same value are read as the same double. -/
theorem toDouble_congr {d d' : Decimal} (hsign : d.negative = d'.negative)
    (hvalue : d.toRat = d'.toRat) : d.toDouble = d'.toDouble := by
  have h := d'.roundsTo_toDouble
  rw [← hsign, ← hvalue] at h
  exact d.roundsTo_toDouble.unique h

/-- **Reading keeps the order.** -/
theorem toDouble_atMost {d d' : Decimal} (h : d.toRat ≤ d'.toRat) :
    d.toDouble.AtMost d'.toDouble := by
  rw [toRat_eq, toRat_eq] at h
  rw [toDouble_eq, toDouble_eq]
  cases hsign : d.negative <;> cases hsign' : d'.negative <;>
    simp only [hsign, hsign', withSign, Bool.false_eq_true, if_true, if_false] at h
  · exact (Double.atMost_of_rank_le (Scientific.rank_toMagnitude_le h)).1
  · -- then both are zero
    have hzero : ∀ x : Scientific, x.toRat ≤ 0 → x.toMagnitude = .zero := fun x hx =>
      Scientific.toMagnitude_eq_zero_iff.2 (hx.trans (by positivity))
    have hnonneg := d.unsigned.toRat_nonneg
    have hnonneg' := d'.unsigned.toRat_nonneg
    rw [hzero d.unsigned (by linarith), hzero d'.unsigned (by linarith)]
    have hvalue : Magnitude.toRat .zero = 0 := Magnitude.toRat_eq_zero_iff.2 rfl
    exact .finite rfl rfl (by simp [hvalue])
  · exact Double.atMost_of_negative _ _
  · exact (Double.atMost_of_rank_le (Scientific.rank_toMagnitude_le (neg_le_neg_iff.1 h))).2

end Decimal

end StackCalculator
