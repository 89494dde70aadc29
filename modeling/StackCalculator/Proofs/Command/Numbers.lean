import StackCalculator.Proofs.Calculator.Steps
import StackCalculator.Proofs.Command.Grammar
import StackCalculator.Proofs.Double.Nearest
import StackCalculator.Proofs.Double.Notation

/-!
# Lines that push a number

What a line pushes depends on the number that is denoted and on the sign in front of it, and on
nothing else about how it is written.  `Operand line text` says that `text` is what the line asks to
push, and `Spelling` has the texts that differ only in what does not count.

* `parse_eq_push_iff` — every line that pushes something has an operand that is a decimal text.
* `parse_eq_of_spelling` — however a number is spelled, the same is pushed.
* `Calculator.stack_execute_minus` — a minus does what `neg` would do.
* `parse_atMost` — a greater number does not push less.

All of them come from reading being correct rounding, `Decimal.roundsTo_toDouble`.  Together they
are `pushed_value_is_correctly_rounded`: **what a line pushes is the correctly rounded value of its
text.**
-/

set_option autoImplicit false

namespace StackCalculator

open Text (trim isBlank)

/-! ## Spellings -/

namespace Decimal

/-- The text spells a number that has these digits before and behind the point.  There may be more
zeros at either end, and a plus in front; where there are no digits on one side of the point, the
point may stand bare, and behind the last digit it may be missing.  So `5`, `+05`, `5.` and `5.00`
are spellings of one number, and so are `.5`, `0.5` and `+.50`. -/
inductive Spelling (negative : Bool) (whole fraction : List Char) : List Char → Prop
  | intro {sign text : List Char} {leading trailing : ℕ} (hsign : SpellsSign sign negative)
      (hparts : SpellsParts text (List.replicate leading '0' ++ whole)
        (fraction ++ List.replicate trailing '0')) : Spelling negative whole fraction (sign ++ text)

theorem toRat_ofDigits (negative : Bool) (whole fraction : List Char) :
    (ofDigits negative whole fraction).toRat =
      withSign negative (digitsValue whole fraction) := rfl

/-- Zeros at either end do not count. -/
theorem digitsValue_zeros (leading trailing : ℕ) (whole fraction : List Char) :
    digitsValue (List.replicate leading '0' ++ whole) (fraction ++ List.replicate trailing '0') =
      digitsValue whole fraction := by
  have hwhole : Nat.ofDigitChars 10 (List.replicate leading '0' ++ whole) 0 =
      Nat.ofDigitChars 10 whole 0 := by
    simp [Nat.ofDigitChars_append]
  have hfraction : Nat.ofDigitChars 10 (fraction ++ List.replicate trailing '0') 0 =
      Nat.ofDigitChars 10 fraction 0 * 10 ^ trailing := by
    simp [Nat.ofDigitChars_append, Nat.mul_comm]
  rw [digitsValue_eq, digitsValue_eq, hwhole, hfraction, List.length_append, List.length_replicate,
    Nat.cast_mul, Nat.cast_pow, Nat.cast_ofNat, pow_add, mul_div_mul_right _ _ (by positivity)]

/-- However a number is spelled, the same is denoted. -/
theorem Spelling.exists_spells {negative : Bool} {whole fraction text : List Char}
    (h : Spelling negative whole fraction text) :
    ∃ d, Spells text d ∧ d.negative = negative ∧
      d.toRat = withSign negative (digitsValue whole fraction) := by
  obtain ⟨hsign, hparts⟩ := h
  refine ⟨_, .intro hsign hparts, rfl, ?_⟩
  rw [toRat_ofDigits, digitsValue_zeros]

end Decimal

/-! ## Operands -/

namespace Command

open Decimal (Spells SpellsParts Spelling)

/-- What a line asks to push: all that is there, or what is there after the word and blanks. -/
inductive Operand (line : String) : List Char → Prop
  | alone : Operand line (trim line.toList)
  | push {word blanks text : List Char} (hword : InAnyCase pushWord word) (hne : blanks ≠ [])
      (hblanks : ∀ c ∈ blanks, isBlank c = true) (htext : trim line.toList = word ++ blanks ++ text) :
      Operand line text

theorem parse_eq_push_iff {line : String} {x : Double} :
    parse line = .ok (.push x) ↔ ∃ text d, Operand line text ∧ Spells text d ∧ x = d.toDouble := by
  rw [parse_eq_iff]
  constructor
  · intro h
    cases h with
    | number hd => exact ⟨_, _, .alone, hd, rfl⟩
    | push hd =>
      generalize htext : trim line.toList = text at hd
      obtain ⟨hword, hne, hblanks, hd⟩ := hd
      exact ⟨_, _, .push hword hne hblanks htext, hd, rfl⟩
    | keyword hc _ => exact absurd hc (by simp [bare])
  · rintro ⟨text, d, hline, hd, rfl⟩
    cases hline with
    | alone => exact .number hd
    | push hword hne hblanks htext =>
      rw [htext]
      exact .push (.intro hword hne hblanks hd)

section Operands

variable {line line' : String} {text text' : List Char}

theorem parse_of_operand {d : Decimal} (h : Operand line text) (hd : Spells text d) :
    parse line = .ok (.push d.toDouble) :=
  parse_eq_push_iff.2 ⟨text, d, h, hd, rfl⟩

/-- However a number is spelled, the same is pushed. -/
theorem parse_eq_of_spelling {negative : Bool} {whole fraction : List Char}
    (h : Operand line text) (h' : Operand line' text') (htext : Spelling negative whole fraction text)
    (htext' : Spelling negative whole fraction text') : parse line = parse line' := by
  obtain ⟨d, hd, hsign, hvalue⟩ := htext.exists_spells
  obtain ⟨d', hd', hsign', hvalue'⟩ := htext'.exists_spells
  rw [parse_of_operand h hd, parse_of_operand h' hd',
    Decimal.toDouble_congr (hsign.trans hsign'.symm) (hvalue.trans hvalue'.symm)]

/-- A greater number does not push less. -/
theorem parse_atMost {d d' : Decimal} (h : Operand line text) (h' : Operand line' text')
    (hd : Spells text d) (hd' : Spells text' d') (hle : d.toRat ≤ d'.toRat) :
    ∃ x x', parse line = .ok (.push x) ∧ parse line' = .ok (.push x') ∧ x.AtMost x' :=
  ⟨_, _, parse_of_operand h hd, parse_of_operand h' hd', Decimal.toDouble_atMost hle⟩

end Operands

end Command

/-! ## Stacks -/

namespace Calculator

open Command (Operand)
open Decimal (Spells SpellsParts)

theorem stack_execute_of_operand (c : Calculator) {line : String} {text : List Char} {d : Decimal}
    (h : Operand line text) (hd : Spells text d) :
    (c.execute line).after.stack = c.stack.push d.toDouble := by
  rw [execute, Command.parse_of_operand h hd]
  rfl

theorem stack_execute_neg {c : Calculator} {rest : Stack} {x : Double}
    (h : c.stack = rest.push x) : (c.execute "neg").after.stack = rest.push x.neg := by
  have hparse : Command.parse "neg" = .ok .neg := by decide
  have htake : takeOne c.stack "negate" = .ok (x, rest) := takeOne_eq_ok.2 h
  rw [execute, hparse]
  simp only [reply, apply, htake]
  rfl

/-- A minus does what `neg` would do. -/
theorem stack_execute_minus (c : Calculator) {line line' : String} {text whole fraction : List Char}
    (h : Operand line text) (h' : Operand line' ('-' :: text))
    (hparts : SpellsParts text whole fraction) :
    (c.execute line').after.stack = ((c.execute line).after.execute "neg").after.stack := by
  have hplain := c.stack_execute_of_operand h (.intro .none hparts)
  rw [stack_execute_neg hplain]
  exact c.stack_execute_of_operand h' (.intro .minus hparts)

end Calculator

/-! ## Everything together -/

namespace Command

open Decimal (Spells SpellsParts Spelling)

/-- **What a line pushes is the correctly rounded value of its text**: the nearest double, on a tie
the even one, infinity and zero from the points on where they are the nearest, and never NaN.  Hence
a plus, zeros at either end and a bare point make no difference, a minus is as good as `neg`, and
what is pushed is monotone in the number denoted. -/
theorem pushed_value_is_correctly_rounded :
    (∀ line text d, Operand line text → Spells text d →
      ∃ x, parse line = .ok (.push x) ∧ x ≠ .nan ∧ Double.RoundsTo d.negative d.toRat x ∧
        (x = .signed d.negative .infinity ↔ 2 ^ 1024 - 2 ^ 970 ≤ |d.toRat|) ∧
        (x = .signed d.negative .zero ↔ |d.toRat| ≤ 1 / 2 ^ 1075)) ∧
    (∀ line line' text text' negative whole fraction, Operand line text → Operand line' text' →
      Spelling negative whole fraction text → Spelling negative whole fraction text' →
      parse line = parse line') ∧
    (∀ (c : Calculator) line line' text whole fraction, Operand line text →
      Operand line' ('-' :: text) → SpellsParts text whole fraction →
      (c.execute line').after.stack = ((c.execute line).after.execute "neg").after.stack) ∧
    ∀ line line' text text' d d', Operand line text → Operand line' text' → Spells text d →
      Spells text' d' → d.toRat ≤ d'.toRat →
      ∃ x x', parse line = .ok (.push x) ∧ parse line' = .ok (.push x') ∧ x.AtMost x' := by
  refine ⟨fun line text d h hd => ?_, ?_, ?_, ?_⟩
  · exact ⟨_, parse_of_operand h hd, d.toDouble_ne_nan, d.roundsTo_toDouble,
      Decimal.toDouble_eq_infinity_iff, Decimal.toDouble_eq_zero_iff⟩
  · intro _ _ _ _ _ _ _ h h' htext htext'
    exact parse_eq_of_spelling h h' htext htext'
  · intro c _ _ _ _ _ h h' hparts
    exact c.stack_execute_minus h h' hparts
  · intro _ _ _ _ _ _ h h' hd hd' hle
    exact parse_atMost h h' hd hd' hle

/-- Of the two doubles around this number, which are as near, the lower one is even. -/
theorem parse_halfway_to_lower :
    parse "PUSH +9007199254740993." = .ok (.push (.ofBits 0x4340000000000000)) ∧
      Double.RoundsTo false 9007199254740993 (.ofBits 0x4340000000000000) := by
  have hline : Operand "PUSH +9007199254740993." "+9007199254740993.".toList :=
    .push (rfl : InAnyCase pushWord "PUSH".toList) (List.cons_ne_nil ' ' [])
      (List.forall_mem_singleton.2 (by decide)) (by decide)
  have hspells : Spells "+9007199254740993.".toList ⟨false, 9007199254740993, 0⟩ :=
    Decimal.parse?_eq_some_iff.1 (by decide)
  obtain ⟨x, hparse, -, hrounds, -⟩ := pushed_value_is_correctly_rounded.1 _ _ _ hline hspells
  have hx : parse "PUSH +9007199254740993." = .ok (.push (.ofBits 0x4340000000000000)) := by
    decide +kernel
  rw [hparse] at hx
  cases hx
  have hvalue : Decimal.toRat ⟨false, 9007199254740993, 0⟩ = 9007199254740993 := by
    norm_num [Decimal.toRat, withSign]
  exact ⟨hparse, hvalue ▸ hrounds⟩

end Command

end StackCalculator
