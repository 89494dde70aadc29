import StackCalculator.Double.ReadBack
import StackCalculator.Proofs.Double.Shortest
import StackCalculator.Proofs.Double.Spelling

/-!
# What the text of a double looks like

The definition of `Double.text` computes digits and pads them.  Here is what comes out, said without
computing it.  Numbers in the plain range are written as `PlainForm`, other finite numbers as
`ExponentForm`, and either way without any digit that could be left out.  The number that is written
is the shortest decimal that is read as the magnitude (`Magnitude.IsShortest`), and not the exact
value.

* `Double.shown_text` — **every double is shown in this way.**
* `Double.Shown.unique` — there is one text only of this kind, since a number has one text of either
  form.

What else is needed of the texts can be read off the forms, such as their alphabet:
`Double.Shown.isPrintable`.
-/

set_option autoImplicit false

namespace StackCalculator

open Decimal (Digits SpellsParts)

/-! ## Digits around a point -/

/-- The number that digits before and behind a point denote. -/
def digitsValue (whole fraction : List Char) : ℚ :=
  Nat.ofDigitChars 10 (whole ++ fraction) 0 / 10 ^ fraction.length

/-- Digits with a point between them, or without it if there are none behind it. -/
def pointed (whole fraction : List Char) : List Char :=
  whole ++ if fraction = [] then [] else '.' :: fraction

/-- Digits to stand before a point: the first is not a zero, unless it is the only one. -/
structure IsWhole (whole : List Char) : Prop where
  digits : Digits whole
  ne_nil : whole ≠ []
  /-- A zero stands alone. -/
  first : whole.head? = some '0' → whole = ['0']

/-- Digits to stand behind a point: the last is not a zero, unless it is the only one. -/
structure IsFraction (fraction : List Char) : Prop where
  digits : Digits fraction
  ne_nil : fraction ≠ []
  /-- A zero stands alone. -/
  last : fraction.getLast? = some '0' → fraction = ['0']

/-- A number is written without an exponent. -/
inductive PlainForm (q : ℚ) : List Char → Prop
  | intro {whole fraction : List Char} (hwhole : IsWhole whole) (hfraction : IsFraction fraction)
      (hvalue : digitsValue whole fraction = q) : PlainForm q (pointed whole fraction)

/-- A number is written with an exponent: one digit before the point, which is not a zero, and
behind it only as many as there are. -/
inductive ExponentForm (q : ℚ) : List Char → Prop
  | intro {d : Char} {fraction : List Char} {e : ℤ} (hd : d.isDigit = true) (hne : d ≠ '0')
      (hfraction : Digits fraction) (hlast : fraction.getLast? ≠ some '0')
      (hvalue : digitsValue [d] fraction * 10 ^ e = q) :
      ExponentForm q (pointed [d] fraction ++ 'e' :: (toString e).toList)

/-- How a double is shown. -/
inductive Double.Shown : Double → List Char → Prop
  | nan : Shown .nan "NaN".toList
  | infinity (negative : Bool) :
      Shown (.signed negative .infinity) ((if negative then ['-'] else []) ++ "inf".toList)
  | plain {negative : Bool} {m : Magnitude} {x : Scientific} {text : List Char}
      (hrange : (Double.signed negative m).InPlainRange) (hx : m.IsShortest x)
      (htext : PlainForm x.toRat text) :
      Shown (.signed negative m) ((if negative then ['-'] else []) ++ text)
  | exponent {negative : Bool} {m : Magnitude} {x : Scientific} {text : List Char}
      (hfinite : m.isFinite = true) (hrange : ¬ (Double.signed negative m).InPlainRange)
      (hx : m.IsShortest x) (htext : ExponentForm x.toRat text) :
      Shown (.signed negative m) ((if negative then ['-'] else []) ++ text)

/-! ## What is laid out -/

theorem codes_of_isDigit {c : Char} (h : c.isDigit = true) : 48 ≤ c.toNat ∧ c.toNat ≤ 57 :=
  Char.isDigit_iff_toNat.1 h

/-- A digit is known by its value. -/
theorem eq_of_isDigit {c c' : Char} (h : c.isDigit = true) (h' : c'.isDigit = true)
    (hvalue : c.toNat - 48 = c'.toNat - 48) : c = c' := by
  have hcode := codes_of_isDigit h
  have hcode' := codes_of_isDigit h'
  rw [← Char.toNat_inj]
  omega

theorem ofDigitChars_cons_zero (c : Char) (text : List Char) :
    Nat.ofDigitChars 10 (c :: text) 0 =
      10 ^ text.length * (c.toNat - 48) + Nat.ofDigitChars 10 text 0 := by
  rw [Nat.ofDigitChars_cons, Nat.ofDigitChars_eq_ofDigitChars_zero, Nat.mul_zero, Nat.zero_add]
  rfl

theorem ofDigitChars_lt {text : List Char} (h : Digits text) :
    Nat.ofDigitChars 10 text 0 < 10 ^ text.length := by
  induction text with
  | nil => exact Nat.one_pos
  | cons c text ih =>
    obtain ⟨hc, htext⟩ := List.forall_mem_cons.1 h
    have hcode := codes_of_isDigit hc
    have hlt := ih htext
    have hmul := Nat.mul_le_mul_left (10 ^ text.length) (by omega : c.toNat - 48 ≤ 9)
    rw [ofDigitChars_cons_zero, List.length_cons, Nat.pow_succ]
    omega

/-- A number ends in a zero if it is a multiple of ten. -/
theorem getLast?_eq_zero_iff {text : List Char} (h : Digits text) (hne : text ≠ []) :
    text.getLast? = some '0' ↔ Nat.ofDigitChars 10 text 0 % 10 = 0 := by
  obtain ⟨start, c, rfl⟩ := (List.eq_nil_or_concat' text).resolve_left hne
  have hc := h c (by simp)
  have hcode := codes_of_isDigit hc
  have hvalue : Nat.ofDigitChars 10 (start ++ [c]) 0 =
      10 * Nat.ofDigitChars 10 start 0 + (c.toNat - 48) := by
    rw [Nat.ofDigitChars_append, Nat.ofDigitChars_cons, Nat.ofDigitChars_nil]
    rfl
  rw [List.getLast?_concat, Option.some_inj, hvalue]
  constructor
  · rintro rfl
    exact Nat.mul_mod_right _ _
  · intro hmod
    have hzero : '0'.toNat - 48 = 0 := rfl
    exact eq_of_isDigit hc rfl (by omega)

theorem isWhole_toDigits (n : Nat) : IsWhole (Nat.toDigits 10 n) where
  digits _ hc := isDigit_of_mem_toDigits hc
  ne_nil := Nat.toDigits_ne_nil
  first hzero := by
    obtain ⟨rest, hdigits⟩ := List.head?_eq_some_iff.1 hzero
    have hvalue := Nat.ofDigitChars_toDigits (n := n) (by decide : 1 < 10) le_rfl
    have hhead : '0'.toNat - 48 = 0 := rfl
    rw [hdigits, ofDigitChars_cons_zero, hhead, Nat.mul_zero, Nat.zero_add] at hvalue
    rcases Nat.eq_zero_or_pos n with rfl | hpos
    · rfl
    · -- the number would be too small for so many digits
      have hrest : Digits rest := fun c hc =>
        isDigit_of_mem_toDigits (n := n) (hdigits ▸ List.mem_cons_of_mem _ hc)
      have hlt := ofDigitChars_lt hrest
      have hle := pow_length_toDigits_le hpos.ne'
      rw [hdigits, List.length_cons, Nat.add_sub_cancel] at hle
      omega

/-- Fixed-point notation is digits around a point, and if the number is no multiple of ten, then the
last of them is not a zero. -/
theorem fixedPoint_eq_pointed (n places : Nat) :
    ∃ fraction, fixedPoint n places = pointed (Nat.toDigits 10 (n / 10 ^ places)) fraction ∧
      Digits fraction ∧ fraction.length = places ∧
      digitsValue (Nat.toDigits 10 (n / 10 ^ places)) fraction = n / 10 ^ places ∧
      (fraction.getLast? = some '0' → n % 10 = 0) := by
  rcases Nat.eq_zero_or_pos places with rfl | hpos
  · refine ⟨[], by simp [fixedPoint, pointed], nofun, rfl, ?_, nofun⟩
    rw [digitsValue, List.append_nil, Nat.ofDigitChars_toDigits (by decide) le_rfl, Nat.pow_zero,
      Nat.div_one]
    rfl
  · have hlength := length_fractionDigits (n := n) hpos
    have hne : fractionDigits n places ≠ [] := List.length_pos_iff.1 (by omega)
    have hdigits : Digits (fractionDigits n places) := fun c hc => isDigit_of_mem_fractionDigits hc
    refine ⟨fractionDigits n places, ?_, hdigits, hlength, ?_, fun hlast => ?_⟩
    · rw [fixedPoint_of_pos n hpos, pointed, if_neg hne]
    · rw [digitsValue, ofDigitChars_fixedPoint n hpos, hlength]
    · have hmod := (getLast?_eq_zero_iff hdigits hne).1 hlast
      rwa [ofDigitChars_fractionDigits, Nat.mod_mod_of_dvd _ (dvd_pow_self 10 hpos.ne')] at hmod

namespace Scientific

theorem plainForm_plainText {x : Scientific} (h : x.coefficient % 10 ≠ 0) :
    PlainForm x.toRat x.plainText := by
  rw [plainText]
  generalize hplaces : max 1 (-x.exponent).toNat = places
  obtain ⟨fraction, htext, hdigits, hlength, hvalue, hlast⟩ :=
    fixedPoint_eq_pointed (x.coefficient * 10 ^ (x.exponent + places).toNat) places
  rw [htext]
  refine .intro (isWhole_toDigits _) ⟨hdigits, List.length_pos_iff.1 (by omega), fun hzero => ?_⟩ ?_
  · -- a zero at the end was put there to have a digit behind the point
    have hone : fraction.length = 1 := by
      by_contra hmore
      have hshift : (x.exponent + places).toNat = 0 := by omega
      rw [hshift, Nat.pow_zero, Nat.mul_one] at hlast
      exact h (hlast hzero)
    obtain ⟨c, rfl⟩ := List.length_eq_one_iff.1 hone
    simpa using hzero
  · have hexponent : ((x.exponent + places).toNat : ℤ) = x.exponent + places := by omega
    rw [hvalue, Nat.cast_mul, Nat.cast_pow, ← zpow_natCast, hexponent, zpow_add₀ (by norm_num),
      zpow_natCast, toRat, div_eq_iff (by positivity)]
    push_cast
    ring

theorem exponentForm_exponentText {x : Scientific} (h : x.coefficient % 10 ≠ 0) :
    ExponentForm x.toRat x.exponentText := by
  have hpositive : x.coefficient ≠ 0 := fun hzero => h (by rw [hzero])
  have hlow := pow_length_toDigits_le hpositive
  have hhigh := lt_pow_length_toDigits x.coefficient
  have hcount : (Nat.toDigits 10 x.coefficient).length =
      (Nat.toDigits 10 x.coefficient).length - 1 + 1 :=
    (Nat.succ_pred_eq_of_pos x.digitCount_pos).symm
  rw [hcount, Nat.pow_succ] at hhigh
  rw [exponentText]
  generalize (Nat.toDigits 10 x.coefficient).length - 1 = places at hlow hhigh
  obtain ⟨fraction, htext, hdigits, hlength, hvalue, hlast⟩ :=
    fixedPoint_eq_pointed x.coefficient places
  -- there is one digit before the point
  have hten : x.coefficient / 10 ^ places < 10 := Nat.div_lt_of_lt_mul hhigh
  have hone : 0 < x.coefficient / 10 ^ places := Nat.div_pos hlow (Nat.pow_pos (by decide))
  rw [Nat.toDigits_of_lt_base hten] at htext hvalue
  have hdigit : (x.coefficient / 10 ^ places).digitChar.isDigit = true ∧
      (x.coefficient / 10 ^ places).digitChar ≠ '0' := by
    generalize x.coefficient / 10 ^ places = d at hten hone
    interval_cases d <;> decide
  simp only [htext]
  refine .intro hdigit.1 hdigit.2 hdigits (fun hzero => h (hlast hzero)) ?_
  rw [hvalue, zpow_add₀ (by norm_num), zpow_natCast, toRat]
  field_simp

end Scientific

namespace Magnitude

theorem isShortest_zero : zero.IsShortest ⟨0, 0⟩ where
  reads_back := Scientific.toMagnitude_zero 0
  best y _ := by
    have hzero : (Scientific.mk 0 0).toRat = zero.toRat := by
      rw [Scientific.toRat, toRat_eq_zero_iff.2 rfl, Nat.cast_zero, zero_mul]
    have hcount : (Scientific.mk 0 0).digitCount = 1 := rfl
    rcases (Nat.succ_le_of_lt y.digitCount_pos).lt_or_eq with hmore | hsame
    · exact .inl (hcount ▸ hmore)
    · exact .inr ⟨hcount.trans hsame, hzero ▸ .self _ _⟩

end Magnitude

namespace Double

/-- **Every double is shown as it is to be shown.** -/
theorem shown_text (x : Double) : x.Shown x.text := by
  rcases x with _ | ⟨negative, m⟩
  · exact .nan
  rw [text]
  by_cases hzero : m.rank = 0
  · obtain rfl : m = .zero := Magnitude.ext hzero
    have hdigit : Digits ['0'] := by simp [Digits]
    have hnumber : Nat.ofDigitChars 10 (['0'] ++ ['0']) 0 = 0 := rfl
    have hvalue : digitsValue ['0'] ['0'] = (Scientific.mk 0 0).toRat := by
      rw [digitsValue, hnumber, Scientific.toRat, Nat.cast_zero, zero_div, zero_mul]
    exact .plain (inPlainRange_signed_iff.2 rfl) Magnitude.isShortest_zero
      (.intro (isWhole_toDigits 0) ⟨hdigit, by simp, fun _ => rfl⟩ hvalue)
  have hpos := Nat.pos_of_ne_zero hzero
  by_cases hplain : m.isPlain = true
  · have hfinite := Magnitude.isFinite_of_isPlain hplain
    rw [Magnitude.text, if_neg hzero, if_pos hplain]
    exact .plain (inPlainRange_signed_iff.2 hplain) (Magnitude.isShortest_shortest hfinite hpos)
      (Scientific.plainForm_plainText (Magnitude.coefficient_shortest_mod_ne_zero hfinite hpos))
  by_cases hfinite : m.isFinite = true
  · rw [Magnitude.text, if_neg hzero, if_neg hplain, if_pos hfinite]
    exact .exponent hfinite (mt inPlainRange_signed_iff.1 hplain)
      (Magnitude.isShortest_shortest hfinite hpos)
      (Scientific.exponentForm_exponentText
        (Magnitude.coefficient_shortest_mod_ne_zero hfinite hpos))
  · rw [Magnitude.text, if_neg hzero, if_neg hplain, if_neg hfinite]
    obtain rfl : m = .infinity := by
      refine Magnitude.ext (m.rank_le.antisymm ?_)
      simpa [Magnitude.isFinite] using hfinite
    exact .infinity negative

end Double

/-! ## No other text has the form -/

/-- As many digits that denote the same number are the same digits. -/
theorem Decimal.Digits.eq_of_length {text text' : List Char} (h : Digits text) (h' : Digits text')
    (hlength : text.length = text'.length)
    (hvalue : Nat.ofDigitChars 10 text 0 = Nat.ofDigitChars 10 text' 0) : text = text' := by
  induction text generalizing text' with
  | nil => exact (List.length_eq_zero_iff.1 hlength.symm).symm
  | cons c text ih =>
    obtain ⟨c', text', rfl⟩ := List.exists_cons_of_length_eq_add_one hlength.symm
    obtain ⟨hc, htext⟩ := List.forall_mem_cons.1 h
    obtain ⟨hc', htext'⟩ := List.forall_mem_cons.1 h'
    have hlen : text.length = text'.length := Nat.add_right_cancel hlength
    have hlt := ofDigitChars_lt htext
    have hlt' := ofDigitChars_lt htext'
    rw [ofDigitChars_cons_zero, ofDigitChars_cons_zero, ← hlen] at hvalue
    rw [← hlen] at hlt'
    have hpos : 0 < 10 ^ text.length := Nat.pow_pos (by decide)
    have hdigit : c.toNat - 48 = c'.toNat - 48 := by
      have hdiv := congrArg (· / 10 ^ text.length) hvalue
      simpa only [Nat.mul_add_div hpos, Nat.div_eq_of_lt hlt, Nat.div_eq_of_lt hlt',
        Nat.add_zero] using hdiv
    rw [hdigit] at hvalue
    rw [eq_of_isDigit hc hc' hdigit, ih htext htext' hlen (Nat.add_left_cancel hvalue)]

/-- Digits behind a point that denote the same fraction are the same, if no zero at the end makes
the one longer than the other. -/
theorem fraction_eq_of_value {fraction fraction' : List Char} (h : Digits fraction)
    (h' : Digits fraction')
    (hlast : fraction'.length < fraction.length → fraction.getLast? ≠ some '0')
    (hlast' : fraction.length < fraction'.length → fraction'.getLast? ≠ some '0')
    (hvalue : (Nat.ofDigitChars 10 fraction 0 : ℚ) / 10 ^ fraction.length =
      Nat.ofDigitChars 10 fraction' 0 / 10 ^ fraction'.length) : fraction = fraction' := by
  wlog hle : fraction.length ≤ fraction'.length generalizing fraction fraction'
  · exact (this h' h hlast' hlast hvalue.symm (by omega)).symm
  obtain ⟨more, hmore⟩ := Nat.exists_eq_add_of_le hle
  have hscaled : Nat.ofDigitChars 10 fraction' 0 = Nat.ofDigitChars 10 fraction 0 * 10 ^ more := by
    rw [div_eq_div_iff (by positivity) (by positivity), hmore, pow_add] at hvalue
    have hpos : (0 : ℚ) < 10 ^ fraction.length := by positivity
    have hcancel : (Nat.ofDigitChars 10 fraction' 0 : ℚ) =
        Nat.ofDigitChars 10 fraction 0 * 10 ^ more :=
      mul_right_cancel₀ hpos.ne' (by linarith)
    exact_mod_cast hcancel
  rcases Nat.eq_zero_or_pos more with rfl | hpos
  · rw [Nat.pow_zero, Nat.mul_one] at hscaled
    exact h.eq_of_length h' hmore.symm hscaled.symm
  · have hmod : Nat.ofDigitChars 10 fraction' 0 % 10 = 0 := by
      rw [hscaled]
      exact Nat.mod_eq_zero_of_dvd ((dvd_pow_self 10 hpos.ne').mul_left _)
    have hne : fraction' ≠ [] := List.length_pos_iff.1 (by omega)
    exact absurd ((getLast?_eq_zero_iff h' hne).2 hmod) (hlast' (by omega))

theorem digitsValue_eq (whole fraction : List Char) :
    digitsValue whole fraction = Nat.ofDigitChars 10 whole 0 +
      (Nat.ofDigitChars 10 fraction 0 : ℚ) / 10 ^ fraction.length := by
  rw [digitsValue, Nat.ofDigitChars_append, Nat.ofDigitChars_eq_ofDigitChars_zero,
    add_div' _ _ _ (by positivity)]
  push_cast
  ring

/-- The digits before the point denote the integer part. -/
theorem floor_digitsValue (whole : List Char) {fraction : List Char} (h : Digits fraction) :
    ⌊digitsValue whole fraction⌋₊ = Nat.ofDigitChars 10 whole 0 := by
  have hlt : (Nat.ofDigitChars 10 fraction 0 : ℚ) < 10 ^ fraction.length := by
    exact_mod_cast ofDigitChars_lt h
  have hfraction : (Nat.ofDigitChars 10 fraction 0 : ℚ) / 10 ^ fraction.length < 1 :=
    (div_lt_one (by positivity)).2 hlt
  rw [digitsValue_eq, Nat.floor_eq_iff (by positivity)]
  exact ⟨le_add_of_nonneg_right (by positivity), by linarith⟩

theorem IsWhole.pow_le {whole : List Char} (h : IsWhole whole) (hne : whole ≠ ['0']) :
    10 ^ (whole.length - 1) ≤ Nat.ofDigitChars 10 whole 0 := by
  obtain ⟨c, rest, rfl⟩ := List.exists_cons_of_ne_nil h.ne_nil
  have hdigit : 1 ≤ c.toNat - 48 := by
    refine Nat.one_le_iff_ne_zero.2 fun hzero => ?_
    obtain rfl : c = '0' := eq_of_isDigit (h.digits c List.mem_cons_self) rfl hzero
    exact hne (h.first rfl)
  rw [ofDigitChars_cons_zero, List.length_cons, Nat.add_sub_cancel]
  exact (Nat.le_mul_of_pos_right _ hdigit).trans (Nat.le_add_right _ _)

theorem IsWhole.length_le {whole whole' : List Char} (h : IsWhole whole) (h' : IsWhole whole')
    (hvalue : Nat.ofDigitChars 10 whole 0 = Nat.ofDigitChars 10 whole' 0) :
    whole.length ≤ whole'.length := by
  by_contra hlonger
  have hpos := List.length_pos_iff.2 h'.ne_nil
  have hle := h.pow_le (by rintro rfl; exact hlonger hpos)
  have hlt := ofDigitChars_lt h'.digits
  rw [hvalue] at hle
  have hlength := (Nat.pow_lt_pow_iff_right (by decide)).1 (hle.trans_lt hlt)
  omega

/-- Digits before a point that denote the same number are the same. -/
theorem IsWhole.eq_of_value {whole whole' : List Char} (h : IsWhole whole) (h' : IsWhole whole')
    (hvalue : Nat.ofDigitChars 10 whole 0 = Nat.ofDigitChars 10 whole' 0) : whole = whole' :=
  h.digits.eq_of_length h'.digits ((h.length_le h' hvalue).antisymm (h'.length_le h hvalue.symm))
    hvalue

theorem IsFraction.getLast?_ne {fraction fraction' : List Char} (h : IsFraction fraction)
    (h' : IsFraction fraction') (hlt : fraction'.length < fraction.length) :
    fraction.getLast? ≠ some '0' := by
  intro hzero
  have hpos := List.length_pos_iff.2 h'.ne_nil
  rw [h.last hzero, List.length_singleton] at hlt
  omega

/-- **A number has one text without an exponent.** -/
theorem PlainForm.unique {q : ℚ} {text text' : List Char} (h : PlainForm q text)
    (h' : PlainForm q text') : text = text' := by
  obtain @⟨whole, fraction, hwhole, hfraction, hvalue⟩ := h
  obtain @⟨whole', fraction', hwhole', hfraction', hvalue'⟩ := h'
  have hfloor := floor_digitsValue whole hfraction.digits
  rw [hvalue, ← hvalue', floor_digitsValue whole' hfraction'.digits] at hfloor
  obtain rfl := hwhole.eq_of_value hwhole' hfloor.symm
  rw [← hvalue', digitsValue_eq, digitsValue_eq, add_right_inj] at hvalue
  rw [fraction_eq_of_value hfraction.digits hfraction'.digits (hfraction.getLast?_ne hfraction')
    (hfraction'.getLast?_ne hfraction) hvalue]

/-- With one digit before the point that is not zero, a number is at least one and less than ten. -/
theorem one_le_digitsValue {d : Char} {fraction : List Char} (hd : d.isDigit = true) (hne : d ≠ '0')
    (h : Digits fraction) :
    1 ≤ digitsValue [d] fraction ∧ digitsValue [d] fraction < 10 := by
  have hwhole : IsWhole [d] :=
    ⟨by simpa [Digits], List.cons_ne_nil _ _, fun hzero => absurd (Option.some.inj hzero) hne⟩
  have hlow := hwhole.pow_le (by simpa using hne)
  have hhigh := ofDigitChars_lt hwhole.digits
  rw [List.length_singleton] at hlow hhigh
  rw [← floor_digitsValue [d] h] at hlow hhigh
  have hpos : 0 ≤ digitsValue [d] fraction := by
    rw [digitsValue]
    positivity
  have hle := Nat.floor_le hpos
  have hlt := Nat.lt_floor_add_one (digitsValue [d] fraction)
  have hone : (1 : ℚ) ≤ ⌊digitsValue [d] fraction⌋₊ := by exact_mod_cast hlow
  have hnine : (⌊digitsValue [d] fraction⌋₊ : ℚ) ≤ 9 := by exact_mod_cast Nat.le_of_lt_succ hhigh
  exact ⟨hone.trans hle, by linarith⟩

/-- A number has one exponent that leaves a significand from one to below ten. -/
theorem exponent_le_of_mul_zpow_eq {s s' : ℚ} {e e' : ℤ} (hs : s < 10) (hs' : 1 ≤ s')
    (h : s * 10 ^ e = s' * 10 ^ e') : e' ≤ e := by
  by_contra hlt
  have hpow : (10 : ℚ) ^ (e + 1) ≤ 10 ^ e' := zpow_le_zpow_right₀ (by norm_num) (by omega)
  have hpos : (0 : ℚ) < 10 ^ e := by positivity
  have hlow : (10 : ℚ) ^ e' ≤ s' * 10 ^ e' := le_mul_of_one_le_left (by positivity) hs'
  have hhigh := mul_lt_mul_of_pos_right hs hpos
  rw [zpow_add_one₀ (by norm_num)] at hpow
  linarith

/-- **A number has one text with an exponent.** -/
theorem ExponentForm.unique {q : ℚ} {text text' : List Char} (h : ExponentForm q text)
    (h' : ExponentForm q text') : text = text' := by
  obtain @⟨d, fraction, e, hd, hne, hfraction, hlast, hvalue⟩ := h
  obtain @⟨d', fraction', e', hd', hne', hfraction', hlast', hvalue'⟩ := h'
  obtain ⟨hlow, hhigh⟩ := one_le_digitsValue hd hne hfraction
  obtain ⟨hlow', hhigh'⟩ := one_le_digitsValue hd' hne' hfraction'
  rw [← hvalue'] at hvalue
  obtain rfl : e = e' := (exponent_le_of_mul_zpow_eq hhigh' hlow hvalue.symm).antisymm
    (exponent_le_of_mul_zpow_eq hhigh hlow' hvalue)
  have hsame := mul_right_cancel₀ (zpow_ne_zero e (by norm_num)) hvalue
  have hfloor := floor_digitsValue [d] hfraction
  rw [hsame, floor_digitsValue [d'] hfraction'] at hfloor
  have hdigit : Digits [d] := by simpa [Digits]
  obtain ⟨rfl, -⟩ := List.cons.inj
    (hdigit.eq_of_length (by simpa [Digits]) rfl hfloor.symm : [d] = [d'])
  rw [digitsValue_eq, digitsValue_eq, add_right_inj] at hsame
  rw [fraction_eq_of_value hfraction hfraction' (fun _ => hlast) (fun _ => hlast') hsame]

/-- There is one number to show for a magnitude. -/
theorem Magnitude.IsShortest.toRat_eq {m : Magnitude} {x y : Scientific} (hx : m.IsShortest x)
    (hy : m.IsShortest y) : x.toRat = y.toRat := by
  rcases hx.best y hy.reads_back with hless | ⟨hcount, hnearer⟩
  · rcases hy.best x hx.reads_back with hmore | ⟨hcount, -⟩ <;> omega
  · rcases hy.best x hx.reads_back with hmore | ⟨-, hnearer'⟩
    · omega
    · exact hnearer.antisymm hnearer'

/-- **A double has one text.** -/
theorem Double.Shown.unique {x : Double} {text text' : List Char} (h : x.Shown text)
    (h' : x.Shown text') : text = text' := by
  have hinfinity : ∀ negative, ¬ (Double.signed negative .infinity).InPlainRange := fun _ =>
    mt Double.inPlainRange_signed_iff.1 (mt Magnitude.isFinite_of_isPlain (by decide))
  cases h with
  | nan => cases h'; rfl
  | infinity negative =>
    cases h' with
    | infinity => rfl
    | plain hrange _ _ => exact absurd hrange (hinfinity _)
    | exponent hfinite _ _ _ => exact absurd hfinite (by decide)
  | plain hrange hx htext =>
    cases h' with
    | infinity => exact absurd hrange (hinfinity _)
    | plain _ hx' htext' =>
      rw [hx'.toRat_eq hx] at htext'
      rw [htext.unique htext']
    | exponent _ hrange' _ _ => exact absurd hrange hrange'
  | exponent hfinite hrange hx htext =>
    cases h' with
    | infinity => exact absurd hfinite (by decide)
    | plain hrange' _ _ => exact absurd hrange' hrange
    | exponent _ _ hx' htext' =>
      rw [hx'.toRat_eq hx] at htext'
      rw [htext.unique htext']

theorem Double.shown_iff {x : Double} {text : List Char} : x.Shown text ↔ text = x.text :=
  ⟨fun h => h.unique x.shown_text, fun h => h ▸ x.shown_text⟩

/-! ## The alphabet -/

theorem spellsParts_pointed {whole fraction : List Char} (hwhole : Digits whole)
    (hne : whole ≠ []) (hfraction : Digits fraction) :
    SpellsParts (pointed whole fraction) whole fraction := by
  by_cases hnil : fraction = []
  · rw [pointed, if_pos hnil, List.append_nil, hnil]
    exact .integer hne hwhole
  · rw [pointed, if_neg hnil]
    exact .point hne hwhole hfraction

/-- The codes from the minus to the letters, among them no comma and no blank. -/
def IsPrintable (c : Char) : Prop := 45 ≤ c.toNat ∧ c.toNat ≤ 122

theorem isPrintable_of_isDigit {c : Char} (h : c.isDigit = true) : IsPrintable c := by
  have hcode := codes_of_isDigit h
  exact ⟨by omega, by omega⟩

theorem isPrintable_of_mem_pointed {whole fraction : List Char} (hwhole : Digits whole)
    (hfraction : Digits fraction) {c : Char} (hc : c ∈ pointed whole fraction) : IsPrintable c := by
  rw [pointed] at hc
  split_ifs at hc
  · rw [List.append_nil] at hc
    exact isPrintable_of_isDigit (hwhole c hc)
  · rcases List.mem_append.1 hc with hc | hc
    · exact isPrintable_of_isDigit (hwhole c hc)
    rcases List.mem_cons.1 hc with rfl | hc
    · exact ⟨by decide, by decide⟩
    · exact isPrintable_of_isDigit (hfraction c hc)

theorem isPrintable_of_mem_toString {e : ℤ} {c : Char} (hc : c ∈ (toString e).toList) :
    IsPrintable c := by
  have hdigit : ∀ n : Nat, c ∈ n.repr.toList → IsPrintable c := fun n hn =>
    isPrintable_of_isDigit (isDigit_of_mem_toDigits (Nat.toList_repr ▸ hn))
  rw [Int.toString_eq_repr, Int.repr_eq_if] at hc
  split_ifs at hc
  · exact hdigit _ hc
  · rw [String.toList_append] at hc
    rcases List.mem_append.1 hc with hc | hc
    · obtain rfl : c = '-' := by simpa using hc
      exact ⟨by decide, by decide⟩
    · exact hdigit _ hc

theorem PlainForm.isPrintable {q : ℚ} {text : List Char} (h : PlainForm q text) :
    ∀ c ∈ text, IsPrintable c := by
  obtain ⟨hwhole, hfraction, -⟩ := h
  exact fun c => isPrintable_of_mem_pointed hwhole.digits hfraction.digits

theorem ExponentForm.isPrintable {q : ℚ} {text : List Char} (h : ExponentForm q text) :
    ∀ c ∈ text, IsPrintable c := by
  obtain ⟨hd, -, hfraction, -, -⟩ := h
  refine List.forall_mem_append.2 ⟨?_, List.forall_mem_cons.2 ⟨⟨by decide, by decide⟩, ?_⟩⟩
  · exact fun c => isPrintable_of_mem_pointed (by simpa [Digits]) hfraction
  · exact fun c => isPrintable_of_mem_toString

theorem Double.Shown.isPrintable {x : Double} {text : List Char} (h : x.Shown text) :
    ∀ c ∈ text, IsPrintable c := by
  have hsign : ∀ negative : Bool, ∀ c ∈ (if negative then ['-'] else []), IsPrintable c := by
    simp [IsPrintable]
  cases h with
  | nan => simp [IsPrintable]
  | infinity negative => exact List.forall_mem_append.2 ⟨hsign negative, by simp [IsPrintable]⟩
  | plain _ _ htext => exact List.forall_mem_append.2 ⟨hsign _, htext.isPrintable⟩
  | exponent _ _ _ htext => exact List.forall_mem_append.2 ⟨hsign _, htext.isPrintable⟩

end StackCalculator
