import StackCalculator.Double.Decimal
import StackCalculator.Double.Text

/-!
# What is written plainly can be read

Reading decimal texts and writing doubles are separate definitions, with formats that overlap only
in part: the reader knows no exponents, and the writer uses them for the large and the small.  This
file proves that on the overlap they are inverse to each other.

* `Decimal.parseUnsigned?_fixedPoint` — fixed-point notation is read as the fraction it is made
  from, digit for digit.
* `Decimal.toDouble_plain` — the fraction that plain notation is made from rounds to the number it
  was made for.
* `Decimal.parse?_text` — together: the text of a number that is written plainly is a decimal text,
  and it denotes that very number.
-/

set_option autoImplicit false

namespace StackCalculator

/-! ## Digits -/

theorem isDigit_of_mem_toDigits {n : Nat} {c : Char} (h : c ∈ Nat.toDigits 10 n) :
    c.isDigit = true :=
  Nat.isDigit_of_mem_toDigits (by decide) (by decide) h

theorem isDigit_of_mem_fractionDigits {n places : Nat} {c : Char}
    (h : c ∈ fractionDigits n places) : c.isDigit = true := by
  simp only [fractionDigits, List.leftpad, List.mem_append, List.mem_replicate] at h
  rcases h with ⟨_, rfl⟩ | h
  · rfl
  · exact isDigit_of_mem_toDigits h

/-- There are as many digits behind the point as asked for: the padding fills up what is missing,
and the remainder has no more. -/
theorem length_fractionDigits {n places : Nat} (h : 0 < places) :
    (fractionDigits n places).length = places := by
  have hlt : n % 10 ^ places < 10 ^ places := Nat.mod_lt _ (Nat.pow_pos (by decide))
  have hle := (Nat.length_toDigits_le_iff (by decide) h).2 hlt
  simp [fractionDigits, List.leftpad, hle]

/-- Padding does not change what the digits say. -/
theorem ofDigitChars_fractionDigits (n places : Nat) :
    Nat.ofDigitChars 10 (fractionDigits n places) 0 = n % 10 ^ places := by
  simp [fractionDigits, List.leftpad, Nat.ofDigitChars_append]

theorem fixedPoint_of_pos (n : Nat) {places : Nat} (h : 0 < places) :
    fixedPoint n places =
      Nat.toDigits 10 (n / 10 ^ places) ++ '.' :: fractionDigits n places := by
  simp [fixedPoint, Nat.ne_of_gt h]

/-- The digits before and behind the point are the digits of `n`. -/
theorem ofDigitChars_fixedPoint (n : Nat) {places : Nat} (h : 0 < places) :
    Nat.ofDigitChars 10 (Nat.toDigits 10 (n / 10 ^ places) ++ fractionDigits n places) 0 = n := by
  rw [Nat.ofDigitChars_append, Nat.ofDigitChars_toDigits (by decide) (by decide),
    Nat.ofDigitChars_eq_ofDigitChars_zero, ofDigitChars_fractionDigits, length_fractionDigits h]
  exact Nat.div_add_mod n (10 ^ places)

/-! ## Fixed-point notation -/

namespace Decimal

/-- Fixed-point notation is read as the fraction it is made from. -/
theorem parseUnsigned?_fixedPoint (negative : Bool) (n : Nat) {places : Nat} (h : 0 < places) :
    parseUnsigned? negative (fixedPoint n places) = some ⟨negative, n, places⟩ := by
  have hwhole : ∀ c ∈ Nat.toDigits 10 (n / 10 ^ places), c.isDigit = true :=
    fun c hc => isDigit_of_mem_toDigits hc
  have hfraction : (fractionDigits n places).all Char.isDigit = true :=
    List.all_eq_true.2 fun c hc => isDigit_of_mem_fractionDigits hc
  have hpoint : Char.isDigit '.' = false := rfl
  unfold parseUnsigned?
  rw [fixedPoint_of_pos n h, List.takeWhile_append_of_pos hwhole,
    List.dropWhile_append_of_pos hwhole]
  simp [hpoint, hfraction, ofDigits, ofDigitChars_fixedPoint n h, length_fractionDigits h,
    Nat.toDigits_ne_nil]

/-- Fixed-point notation starts with a digit, so no sign is taken off it. -/
theorem takeSign_fixedPoint (n places : Nat) :
    takeSign (fixedPoint n places) = (false, fixedPoint n places) := by
  obtain ⟨c, cs, hc⟩ := List.exists_cons_of_ne_nil
    (Nat.toDigits_ne_nil : Nat.toDigits 10 (n / 10 ^ places) ≠ [])
  have hdigit : c.isDigit = true := isDigit_of_mem_toDigits (n := n / 10 ^ places) (by simp [hc])
  unfold fixedPoint
  rw [hc, List.cons_append]
  unfold takeSign
  split
  · rename_i heq
    obtain ⟨rfl, _⟩ := List.cons.inj heq
    exact absurd hdigit (by decide)
  · rename_i heq
    obtain ⟨rfl, _⟩ := List.cons.inj heq
    exact absurd hdigit (by decide)
  · rfl

/-- Fixed-point notation with a sign is read as the fraction it is made from, with that sign. -/
theorem parse?_fixedPoint (negative : Bool) (n : Nat) {places : Nat} (h : 0 < places) :
    parse? ((if negative then ['-'] else []) ++ fixedPoint n places)
      = some ⟨negative, n, places⟩ := by
  cases negative with
  | false => simp [parse?, takeSign_fixedPoint, parseUnsigned?_fixedPoint false n h]
  | true => simp [parse?, takeSign, parseUnsigned?_fixedPoint true n h]

/-! ## Plain notation -/

/-- The fraction that plain notation is made from rounds to the same magnitude as the decimal it is
made for: it is the same number, over a power of ten as denominator. -/
theorem toDouble_plain (negative : Bool) (x : Scientific) :
    let places := max 1 (-x.exponent).toNat
    toDouble ⟨negative, x.coefficient * 10 ^ (x.exponent + places).toNat, places⟩
      = .signed negative x.toMagnitude := by
  obtain ⟨c, e⟩ := x
  intro places
  simp only [toDouble, Scientific.toMagnitude, Scientific.grid]
  congr 1
  rcases Int.lt_or_le e 0 with h | h
  · have hplaces : places = (-e).toNat := by simp only [places]; omega
    have hzero : e.toNat = 0 := by omega
    have hshift : (e + places).toNat = 0 := by omega
    rw [hshift, hplaces, hzero, Nat.pow_zero, Nat.mul_one, Nat.mul_one, Nat.mul_comm]
  · have hplaces : places = 1 := by simp only [places]; omega
    have hzero : (-e).toNat = 0 := by omega
    have hshift : (e + places).toNat = e.toNat + 1 := by omega
    rw [hshift, hplaces, hzero, Nat.pow_succ]
    have hscale : Magnitude.unitsPerOne * (c * (10 ^ e.toNat * 10))
        = 10 * (c * (Magnitude.unitsPerOne * 10 ^ e.toNat)) := by
      ac_rfl
    rw [hscale]
    exact Magnitude.nearest_mul_mul (by decide) _ 1

/-- **What is written plainly can be read.**  The text of such a number is a decimal text, and it
denotes the number, its sign included. -/
theorem parse?_text (negative : Bool) {m : Magnitude} (h : m.isPlain) :
    ∃ d, parse? (Double.text (.signed negative m)) = some d ∧ d.toDouble = .signed negative m := by
  by_cases hzero : m.rank = 0
  · obtain rfl : m = .zero := Magnitude.ext hzero
    refine ⟨⟨negative, 0, 1⟩, ?_, ?_⟩
    · have htext : Magnitude.text .zero = fixedPoint 0 1 := rfl
      rw [Double.text, htext]
      exact parse?_fixedPoint negative 0 (by decide)
    · have hnearest := Magnitude.nearest_value_mul .zero (by decide : 0 < 10 ^ 1)
      have hvalue : Magnitude.zero.value = 0 := rfl
      rw [hvalue, Nat.zero_mul] at hnearest
      rw [toDouble, Nat.mul_zero, hnearest]
  · have htext : m.text = m.shortest.plainText := by simp [Magnitude.text, hzero, h]
    refine ⟨_, ?_, toDouble_plain negative m.shortest |>.trans ?_⟩
    · rw [Double.text, htext]
      exact parse?_fixedPoint negative _ (by omega)
    · rw [Magnitude.toMagnitude_shortest]

end Decimal

end StackCalculator
