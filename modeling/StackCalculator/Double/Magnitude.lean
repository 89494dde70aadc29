/-!
# Magnitudes of binary64 numbers

The non-negative binary64 numbers, infinity included, form one ascending ladder: zero, the
subnormals, the normal numbers binade by binade, infinity.  This file describes a magnitude by its
*rank* on that ladder and measures it in *units* of `2⁻¹⁰⁷⁴`, the smallest positive magnitude, so
that every finite value is a natural number and no step of the arithmetic is ever inexact.

* `Magnitude.units` — the value of the number at a rank.  The formula simply continues past the
  largest finite number, so infinity stands at `2¹⁰²⁴`, where the next binade would begin.  That is
  what makes overflow an ordinary case of rounding: the halfway point between the largest finite
  number and this fictitious neighbour is exactly where the standard starts to round to infinity.
* `Magnitude.floorRank` — the highest rank whose value does not exceed a given number of units; the
  two bounds in `floorRank_eq_iff` determine it.
* `Magnitude.nearest` — the magnitude nearest to a fraction of units.  A fraction lies between two
  neighbouring ranks, so the choice is between these two; a tie goes to the even rank, which is the
  rank with the even significand, because a binade holds an even number of ranks.

The ladder ascends strictly (`Magnitude.units_lt_units_iff`), so a rank and its value determine each
other, and a value on the ladder rounds to its own rank (`Magnitude.nearest_value_mul`).
-/

set_option autoImplicit false

-- Powers are those of the core library, also where a library with powers of its own is imported.
attribute [instance (high)] instPowNat
attribute [default_instance (high + 1)] instPowNat

namespace StackCalculator

namespace Magnitude

/-- The binary places of a unit: it is worth `2⁻¹⁰⁷⁴`. -/
@[irreducible] def unitPlaces : Nat := 1074

/-- One, in units. -/
def unitsPerOne : Nat := 2 ^ unitPlaces

/-- The rank of infinity.  Everything below it is finite. -/
def infinityRank : Nat := 2047 * 2 ^ 52

/-- The value at a rank, in units.  Subnormal and first-binade numbers are one unit apart, so there
rank and value agree; each later binade doubles the spacing of the one before. -/
def units (rank : Nat) : Nat :=
  if rank < 2 ^ 53 then rank else (2 ^ 52 + rank % 2 ^ 52) * 2 ^ (rank / 2 ^ 52 - 1)

/-- The highest rank whose value is at most `n` units: `n` with all but its leading 53 binary
digits dropped. -/
def floorRank (n : Nat) : Nat :=
  if n < 2 ^ 53 then n else
    let dropped := n.log2 - 52
    dropped * 2 ^ 52 + n / 2 ^ dropped

/-- The rank nearest to `num / den` units, before overflow is considered.  The two candidates are
the rank just below the fraction and its upper neighbour. -/
def nearestRank (num den : Nat) : Nat :=
  let below := floorRank (num / den)
  let fromBelow := num - units below * den
  let toAbove := units (below + 1) * den - num
  if fromBelow < toAbove then below
  else if toAbove < fromBelow then below + 1
  else if below % 2 = 0 then below else below + 1

theorem units_zero : units 0 = 0 := by decide

theorem units_of_lt {rank : Nat} (h : rank < 2 ^ 53) : units rank = rank :=
  if_pos h

/-! ## The ladder ascends -/

/-- Neighbouring ranks are one spacing apart, also across the start of a binade, where the larger of
the two spacings comes only after the step. -/
theorem units_succ (rank : Nat) : units (rank + 1) = units rank + 2 ^ (rank / 2 ^ 52 - 1) := by
  rcases Nat.lt_or_ge (rank + 1) (2 ^ 53) with h | h
  · have hexp : rank / 2 ^ 52 - 1 = 0 := by omega
    have hrank : rank < 2 ^ 53 := by omega
    rw [units_of_lt h, units_of_lt hrank, hexp, Nat.pow_zero]
  · have hbinade : 1 ≤ rank / 2 ^ 52 := by omega
    obtain ⟨e, he⟩ : ∃ e, rank / 2 ^ 52 = e + 1 := ⟨rank / 2 ^ 52 - 1, by omega⟩
    have hrank : units rank = (2 ^ 52 + rank % 2 ^ 52) * 2 ^ e := by
      unfold units
      split
      · have : e = 0 := by omega
        subst this
        omega
      · rw [he, Nat.add_sub_cancel]
    have hnext : units (rank + 1) = (2 ^ 52 + rank % 2 ^ 52 + 1) * 2 ^ e := by
      unfold units
      rw [if_neg (by omega)]
      rcases Nat.lt_or_ge (rank % 2 ^ 52 + 1) (2 ^ 52) with hin | hout
      · have h1 : (rank + 1) % 2 ^ 52 = rank % 2 ^ 52 + 1 := by omega
        have h2 : (rank + 1) / 2 ^ 52 - 1 = e := by omega
        rw [h1, h2, Nat.add_assoc]
      · have h1 : (rank + 1) % 2 ^ 52 = 0 := by omega
        have h2 : (rank + 1) / 2 ^ 52 - 1 = e + 1 := by omega
        have h3 : rank % 2 ^ 52 + 1 = 2 ^ 52 := by omega
        rw [h1, h2, Nat.add_assoc, h3, Nat.pow_succ]
        omega
    rw [hnext, hrank, he, Nat.add_sub_cancel, Nat.add_mul _ 1, Nat.one_mul]

/-- Every step up the ladder is a step up in value. -/
theorem units_lt_units {low high : Nat} (h : low < high) : units low < units high := by
  induction high with
  | zero => omega
  | succ high ih =>
    have hstep := units_succ high
    have hpos : 0 < 2 ^ (high / 2 ^ 52 - 1) := Nat.two_pow_pos _
    rcases Nat.lt_or_ge low high with hlt | hge
    · have := ih hlt
      omega
    · obtain rfl : low = high := by omega
      omega

theorem units_lt_units_iff {low high : Nat} : units low < units high ↔ low < high := by
  refine ⟨fun h => ?_, units_lt_units⟩
  rcases Nat.lt_trichotomy low high with hlt | rfl | hgt
  · exact hlt
  · omega
  · have := units_lt_units hgt
    omega

theorem units_inj {r t : Nat} : units r = units t ↔ r = t := by
  refine ⟨fun h => ?_, congrArg units⟩
  rcases Nat.lt_trichotomy r t with hlt | heq | hgt
  · have := units_lt_units hlt
    omega
  · exact heq
  · have := units_lt_units hgt
    omega

/-- The value at `s * 2 ^ 52 + m`, for a 53-digit significand `m`, is `m` shifted by `s` places. -/
theorem units_of_significand (s m : Nat) (hlow : 2 ^ 52 ≤ m) (hhigh : m < 2 ^ 53) :
    units (s * 2 ^ 52 + m) = m * 2 ^ s := by
  induction s with
  | zero => rw [Nat.zero_mul, Nat.zero_add, units_of_lt hhigh, Nat.pow_zero, Nat.mul_one]
  | succ s _ =>
    unfold units
    rw [if_neg (by omega)]
    have h1 : ((s + 1) * 2 ^ 52 + m) / 2 ^ 52 - 1 = s + 1 := by omega
    have h2 : 2 ^ 52 + ((s + 1) * 2 ^ 52 + m) % 2 ^ 52 = m := by omega
    rw [h1, h2]

theorem significand_bounds {n : Nat} (h : 2 ^ 53 ≤ n) :
    2 ^ 52 ≤ n / 2 ^ (n.log2 - 52) ∧ n / 2 ^ (n.log2 - 52) < 2 ^ 53 := by
  have hne : n ≠ 0 := by omega
  have hlog : 53 ≤ n.log2 := (Nat.le_log2 hne).2 h
  have hself : 2 ^ n.log2 ≤ n := Nat.log2_self_le hne
  have hlt : n < 2 ^ (n.log2 + 1) := Nat.lt_log2_self
  constructor
  · rw [Nat.le_div_iff_mul_le (Nat.two_pow_pos _), ← Nat.pow_add]
    rwa [show 52 + (n.log2 - 52) = n.log2 by omega]
  · rw [Nat.div_lt_iff_lt_mul (Nat.two_pow_pos _), ← Nat.pow_add]
    rwa [show 53 + (n.log2 - 52) = n.log2 + 1 by omega]

theorem units_floorRank_le (n : Nat) : units (floorRank n) ≤ n := by
  unfold floorRank
  split
  · rename_i h
    exact Nat.le_of_eq (units_of_lt h)
  · rename_i h
    obtain ⟨hlow, hhigh⟩ := significand_bounds (Nat.le_of_not_lt h)
    rw [units_of_significand _ _ hlow hhigh]
    exact Nat.div_mul_le_self _ _

theorem lt_units_floorRank_succ (n : Nat) : n < units (floorRank n + 1) := by
  rw [units_succ]
  unfold floorRank
  split
  · rename_i h
    rw [units_of_lt h, show n / 2 ^ 52 - 1 = 0 by omega]
    omega
  · rename_i h
    obtain ⟨hlow, hhigh⟩ := significand_bounds (Nat.le_of_not_lt h)
    rw [units_of_significand _ _ hlow hhigh]
    have hexp : ((n.log2 - 52) * 2 ^ 52 + n / 2 ^ (n.log2 - 52)) / 2 ^ 52 - 1 = n.log2 - 52 := by
      omega
    rw [hexp, ← Nat.add_one_mul]
    exact Nat.lt_mul_of_div_lt (Nat.lt_succ_self _) (Nat.two_pow_pos _)

/-- Rounding down is pinned down by its two bounds. -/
theorem floorRank_eq_iff {n rank : Nat} :
    floorRank n = rank ↔ units rank ≤ n ∧ n < units (rank + 1) := by
  constructor
  · rintro rfl
    exact ⟨units_floorRank_le n, lt_units_floorRank_succ n⟩
  · rintro ⟨hle, hlt⟩
    have h1 : floorRank n < rank + 1 :=
      units_lt_units_iff.1 (Nat.lt_of_le_of_lt (units_floorRank_le n) hlt)
    have h2 : rank < floorRank n + 1 :=
      units_lt_units_iff.1 (Nat.lt_of_le_of_lt hle (lt_units_floorRank_succ n))
    omega

/-- A value on the ladder is nearest to itself. -/
theorem nearestRank_units_mul (rank : Nat) {den : Nat} (hden : 0 < den) :
    nearestRank (units rank * den) den = rank := by
  have hfloor : floorRank (units rank * den / den) = rank := by
    rw [Nat.mul_div_cancel _ hden, floorRank_eq_iff]
    exact ⟨Nat.le_refl _, units_lt_units (Nat.lt_succ_self rank)⟩
  have hup : 0 < units (rank + 1) * den - units rank * den :=
    Nat.sub_pos_of_lt (Nat.mul_lt_mul_of_pos_right (units_lt_units (Nat.lt_succ_self rank)) hden)
  simp only [nearestRank, hfloor, Nat.sub_self]
  rw [if_pos hup]

/-- Rounding depends on the fraction only, not on how it is written. -/
theorem nearestRank_mul_mul {k : Nat} (hk : 0 < k) (num den : Nat) :
    nearestRank (k * num) (k * den) = nearestRank num den := by
  have hfloor : k * num / (k * den) = num / den := Nat.mul_div_mul_left num den hk
  have hbelow : ∀ r, k * num - units r * (k * den) = k * (num - units r * den) := by
    intro r
    rw [Nat.mul_sub, Nat.mul_left_comm]
  have habove : ∀ r, units r * (k * den) - k * num = k * (units r * den - num) := by
    intro r
    rw [Nat.mul_sub, Nat.mul_left_comm]
  simp only [nearestRank, hfloor, hbelow, habove, Nat.mul_lt_mul_left hk]

end Magnitude

/-- A non-negative binary64 number or infinity, given by its position in ascending order. -/
structure Magnitude where
  /-- How many magnitudes are smaller. -/
  rank : Nat
  /-- Nothing is larger than infinity. -/
  rank_le : rank ≤ Magnitude.infinityRank
  deriving DecidableEq

namespace Magnitude

/-- The magnitude of both zeros. -/
def zero : Magnitude := ⟨0, Nat.zero_le _⟩

/-- The largest magnitude. -/
def infinity : Magnitude := ⟨infinityRank, Nat.le_refl _⟩

/-- Whether the magnitude is a number and not infinity. -/
def isFinite (m : Magnitude) : Bool := m.rank < infinityRank

/-- The magnitude nearest to `num / den` units, a tie going to the even significand.  Whatever
rounds past the largest finite number is infinity. -/
def nearest (num den : Nat) : Magnitude :=
  ⟨min (nearestRank num den) infinityRank, Nat.min_le_right _ _⟩

/-- The value of a magnitude in units.  For infinity this is the value at which the binade after
the last one would begin. -/
def value (m : Magnitude) : Nat := units m.rank

/-- A magnitude is nearest to its own value. -/
theorem nearest_value_mul (m : Magnitude) {den : Nat} (hden : 0 < den) :
    nearest (m.value * den) den = m := by
  cases m with
  | mk rank rank_le => simp [nearest, value, nearestRank_units_mul rank hden, rank_le]

/-- Rounding depends on the fraction only, not on how it is written. -/
theorem nearest_mul_mul {k : Nat} (hk : 0 < k) (num den : Nat) :
    nearest (k * num) (k * den) = nearest num den := by
  simp [nearest, nearestRank_mul_mul hk]

@[ext] theorem ext {m n : Magnitude} (h : m.rank = n.rank) : m = n := by
  cases m; cases n; simp_all

end Magnitude

end StackCalculator
