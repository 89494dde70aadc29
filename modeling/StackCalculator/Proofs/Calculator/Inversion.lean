import StackCalculator.Proofs.Calculator.Steps
import StackCalculator.Proofs.Double.Reciprocal

/-!
# Inverting and its warning

Inverting puts the reciprocal in the place of the top value and warns of a zero, whose reciprocal is
infinite.  The warning looks at the operand and not at the result, and this file says what the
difference is.

* `Calculator.inversion_warns_of_zero` — **the warning is given for the zeros and for nothing
  else**, and what it says is true: the reciprocal that it shows is infinite.
* `Calculator.inversion_overflows_unwarned` — an infinite reciprocal without a warning.

The operands in between are the subnormal numbers of at most `2⁻¹⁰²⁴`, and nothing is said of them.
-/

set_option autoImplicit false

namespace StackCalculator

theorem Stack.peek?_eq_some_iff {s : Stack} {x : Double} :
    s.peek? = some x ↔ ∃ rest : Stack, s = rest.push x := by
  obtain ⟨_ | ⟨y, rest⟩⟩ := s
  · exact ⟨nofun, fun ⟨_, h⟩ => by cases h⟩
  · constructor
    · intro h
      cases h
      exact ⟨⟨rest⟩, rfl⟩
    · rintro ⟨_, h⟩
      cases h
      rfl

namespace Calculator

theorem inverted_of_isZero {x : Double} (h : x.isZero = true) :
    inverted x =
      ⟨true, .warning, "Inverted " ++ toString x ++ "; result is " ++ toString x.inv, .none⟩ :=
  if_pos h

theorem inverted_of_not_isZero {x : Double} (h : ¬ x.isZero = true) :
    inverted x = .done ("Inverted " ++ toString x) :=
  if_neg h

/-- **Inverting warns of zeros and of nothing else.**  If the top value is finite, inverting is
carried out, whatever the state is otherwise and whichever way it is asked for.  With a zero on top,
of either sign, the outcome is a warning that shows the result, and this is infinite.  With any
other number it is a routine confirmation, and the result is the correctly rounded reciprocal.  That
one is finite, too, unless the number is at most `2⁻¹⁰²⁴` in absolute value. -/
theorem inversion_warns_of_zero (c : Calculator) {s : Step} (hs : s.command = .ok .inv)
    {x : Double} (htop : c.stack.peek? = some x) (hfinite : x.isFinite = true) :
    ∃ (rest : Stack) (q : ℚ) (outcome : Outcome),
      c.stack = rest.push x ∧ x.toRat? = some q ∧
      c.step s = (.ok outcome, ⟨rest.push x.inv, c.history.record (.inv x)⟩) ∧
      outcome.applied = true ∧ outcome.effect = .none ∧
      (outcome.severity = .warning ↔ q = 0) ∧
      (outcome.severity = .warning → x.inv.IsInfinite ∧
        outcome.message = "Inverted " ++ toString x ++ "; result is " ++ toString x.inv) ∧
      (outcome.severity ≠ .warning → outcome.severity = .debug ∧
        outcome.message = "Inverted " ++ toString x ∧ Double.RoundsTo (q < 0) q⁻¹ x.inv ∧
        (x.inv.isFinite = true ∨ |q| ≤ 1 / 2 ^ 1024)) ∧
      (x.inv.IsInfinite ↔ |q| ≤ 1 / 2 ^ 1024) := by
  obtain ⟨rest, hrest⟩ := Stack.peek?_eq_some_iff.1 htop
  obtain ⟨q, hq⟩ := Double.exists_toRat?_of_isFinite hfinite
  have happly : c.apply .inv =
      .ok (inverted x, ⟨rest.push x.inv, c.history.record (.inv x)⟩) := by
    rw [apply, hrest]
    rfl
  have hinfinite := Double.isInfinite_inv_iff hq
  refine ⟨rest, q, inverted x, hrest, hq, step_of_apply hs happly, ?_⟩
  by_cases hzero : q = 0
  · have hinverted := inverted_of_isZero ((Double.isZero_iff hq).2 hzero)
    have hresult : x.inv.IsInfinite := hinfinite.2 (by rw [hzero, abs_zero]; positivity)
    rw [hinverted]
    exact ⟨rfl, rfl, iff_of_true rfl hzero, fun _ => ⟨hresult, rfl⟩, absurd rfl, hinfinite⟩
  · have hinverted := inverted_of_not_isZero (mt (Double.isZero_iff hq).1 hzero)
    have hresult : x.inv.isFinite = true ∨ |q| ≤ 1 / 2 ^ 1024 := by
      rw [Double.isFinite_inv_iff hq]
      exact lt_or_ge _ _
    have hdebug : Severity.debug ≠ .warning := by decide
    rw [hinverted]
    exact ⟨rfl, rfl, iff_of_false hdebug hzero, fun h => absurd h hdebug,
      fun _ => ⟨rfl, rfl, Double.roundsTo_inv hq hzero, hresult⟩, hinfinite⟩

/-- The number is negative and has the absolute value `2⁻¹⁰²⁴`. -/
theorem inversion_of_bound :
    let x := Double.ofBits 0x8004000000000000
    let c := fresh.run [.apply (.push x)]
    (Step.line " Inv").command = .ok .inv ∧ c.stack.peek? = some x ∧ x.isFinite = true ∧
    ∃ outcome after, c.step (.line " Inv") = (.ok outcome, after) ∧
      after.stack.peek? = some (.signed true .infinity) ∧ outcome.severity ≠ .warning := by
  intro x c
  have hcommand : (Step.line " Inv").command = .ok .inv := by decide +kernel
  have hinv : x.inv = .signed true .infinity := by decide +kernel
  have hzero : x.isZero = false := by decide
  have htop : c.stack.peek? = some x := rfl
  obtain ⟨rest, q, outcome, -, hq, hstep, -, -, hseverity, -⟩ :=
    inversion_warns_of_zero c hcommand htop rfl
  refine ⟨hcommand, htop, rfl, outcome, _, hstep, congrArg some hinv, ?_⟩
  rw [Ne, hseverity, ← Double.isZero_iff hq, hzero]
  exact Bool.false_ne_true

/-- The smallest positive double has an infinite reciprocal, and no warning is given. -/
theorem inversion_overflows_unwarned :
    let smallest := Double.ofBits 1
    let c := fresh.run [.apply (.push smallest)]
    c.stack.peek? = some smallest ∧ smallest.isFinite = true ∧
    ∃ outcome after, c.step (.line "inv") = (.ok outcome, after) ∧
      after.stack.peek? = some (.signed false .infinity) ∧
      outcome.severity = .debug ∧ outcome.message = "Inverted 5e-324" ∧
      ¬ (outcome.severity = .warning ↔ smallest.inv.IsInfinite) := by
  intro smallest c
  have hcommand : (Step.line "inv").command = .ok .inv := by decide +kernel
  have hinv : smallest.inv = .signed false .infinity := by decide +kernel
  have hmessage : "Inverted " ++ toString smallest = "Inverted 5e-324" := by decide +kernel
  refine ⟨rfl, rfl, inverted smallest, _, step_of_apply hcommand rfl, congrArg some hinv, rfl,
    hmessage, fun h => ?_⟩
  exact absurd (h.2 ⟨false, hinv⟩) nofun

end Calculator

end StackCalculator
