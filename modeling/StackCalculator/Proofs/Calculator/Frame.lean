import StackCalculator.Proofs.Calculator.Steps

/-!
# What lies beneath a script

A script that the fresh calculator carries out entirely brings along all the values that it takes
off the stack and all the records that it undoes.  So it can be carried out on top of anything else,
and it neither looks at nor changes what it finds there.  Two commands are different because they
are about the whole stack: `clear` takes all of it, and `print` shows all of it.

* `Calculator.above` — one state on top of another: values on values and records on records.
* `Calculator.apply_above` — what one command does, it does on top of any other state as well.
* `Calculator.run_above` — hence so does a script without `clear`, if it is carried out entirely.
* `Calculator.script_keeps_to_its_own` — **the main result**, with the answers on the way.
-/

set_option autoImplicit false

namespace StackCalculator

/-! ## One state on top of another -/

namespace Stack

/-- The values of a stack on top of those of another one. -/
def above (s base : Stack) : Stack := ⟨s.topDown ++ base.topDown⟩

@[simp] theorem values_above (s base : Stack) :
    (s.above base).values = base.values ++ s.values := by
  simp [values, above]

theorem pushAll_above (s base : Stack) (xs : List Double) :
    (s.above base).pushAll xs = (s.pushAll xs).above base := by
  rw [← values_inj]
  simp [List.append_assoc]

end Stack

namespace History

/-- The records of a history on top of those of another one. -/
def above (h base : History) : History := ⟨h.newestFirst ++ base.newestFirst⟩

@[simp] theorem oldestFirst_above (h base : History) :
    (h.above base).oldestFirst = base.oldestFirst ++ h.oldestFirst := List.reverse_append

/-- As long as there are records on top, the most recent one is among them. -/
theorem last?_above {h : History} {record : Record} (base : History)
    (hlast : h.last? = some record) :
    (h.above base).last? = some record ∧ (h.above base).dropLast = h.dropLast.above base := by
  obtain ⟨_ | ⟨r, records⟩⟩ := h
  · cases hlast
  · exact ⟨hlast, rfl⟩

end History

/-- A stack that a record can be reverted on need not be the whole stack. -/
theorem Record.revert_above {record : Record} {s after : Stack} (base : Stack)
    (h : record.revert s = .ok after) : record.revert (s.above base) = .ok (after.above base) := by
  cases record with
  | pop x => cases h; rfl
  | clear xs => cases h; exact congrArg Except.ok (s.pushAll_above base xs)
  | push x | add first second | mul first second | neg x | inv x =>
    obtain ⟨⟨y, rest⟩, hpop, h⟩ := bind_eq_ok.1 h
    obtain rfl := Stack.pop_eq_ok.1 hpop
    cases h
    rfl

namespace Calculator

/-- The values and records of a state on top of those of another one. -/
def above (c base : Calculator) : Calculator :=
  ⟨c.stack.above base.stack, c.history.above base.history⟩

theorem fresh_above (base : Calculator) : fresh.above base = base := rfl

/-! ## Commands and scripts on top of a state -/

/-- **A command that is no `clear` does the same on top of any other state**, if it is carried out
without it, and reports the same unless it is `print`. -/
theorem apply_above {c after : Calculator} {command : Command} {outcome : Outcome}
    (base : Calculator) (hclear : command ≠ .clear)
    (h : c.apply command = .ok (outcome, after)) :
    ∃ outcome', (c.above base).apply command = .ok (outcome', after.above base) ∧
      outcome'.severity = outcome.severity ∧ (command ≠ .print → outcome' = outcome) := by
  obtain ⟨s, history⟩ := c
  cases command with
  | clear => exact absurd rfl hclear
  | push x | help | quit => cases h; exact ⟨_, rfl, rfl, fun _ => rfl⟩
  | print => cases h; exact ⟨_, rfl, rfl, fun hprint => absurd rfl hprint⟩
  | pop =>
    obtain ⟨⟨x, rest⟩, hpop, h⟩ := bind_eq_ok.1 h
    obtain rfl := Stack.pop_eq_ok.1 (mapError_eq_ok.1 hpop)
    cases h
    exact ⟨_, rfl, rfl, fun _ => rfl⟩
  | neg | inv =>
    obtain ⟨⟨x, rest⟩, htake, h⟩ := bind_eq_ok.1 h
    obtain rfl := takeOne_eq_ok.1 htake
    cases h
    exact ⟨_, rfl, rfl, fun _ => rfl⟩
  | add | mul =>
    obtain ⟨⟨x, y, rest⟩, htake, h⟩ := bind_eq_ok.1 h
    obtain rfl := takeTwo_eq_ok.1 htake
    cases h
    exact ⟨_, rfl, rfl, fun _ => rfl⟩
  | undo =>
    obtain ⟨record, hlast, hrevert, hhistory, rfl⟩ := apply_undo_eq_ok_iff.1 h
    obtain ⟨hlast', hdrop⟩ := History.last?_above base.history hlast
    refine ⟨_, apply_undo_eq_ok_iff.2 ⟨record, hlast', ?_, ?_, rfl⟩, rfl, fun _ => rfl⟩
    · exact Record.revert_above base.stack hrevert
    · rw [above, hhistory, ← hdrop]
      rfl

/-- A step that is carried out is carried out on top of any other state as well. -/
theorem step_above {c : Calculator} {s : Step} (base : Calculator)
    (hclear : s.command ≠ .ok .clear) (happlied : (c.step s).1.applied = true) :
    ∃ outcome outcome', c.step s = (.ok outcome, (c.step s).2) ∧
      (c.above base).step s = (.ok outcome', (c.step s).2.above base) ∧
      outcome'.applied = true ∧ outcome'.severity = outcome.severity ∧
      (s.command ≠ .ok .print → outcome' = outcome) := by
  obtain ⟨command, outcome, after, hs, happly⟩ := applied_step_iff.1 happlied
  have hne : command ≠ .clear := fun h => hclear (by rw [hs, h])
  obtain ⟨outcome', happly', hseverity, hprint⟩ := apply_above base hne happly
  rw [step_of_apply hs happly, step_of_apply hs happly']
  refine ⟨outcome, outcome', rfl, rfl, (outcome_of_apply happly').1, hseverity, fun h => ?_⟩
  exact hprint fun hcommand => h (by rw [hs, hcommand])

/-- **A script without `clear` does the same on top of any other state**, if it is carried out
entirely without it. -/
theorem run_above {c : Calculator} {steps : List Step} (base : Calculator)
    (hclear : ∀ s ∈ steps, s.command ≠ .ok .clear)
    (happlied : ∀ reply ∈ c.trace steps, reply.1.applied = true) :
    (c.above base).run steps = (c.run steps).above base := by
  induction steps generalizing c with
  | nil => rfl
  | cons s steps ih =>
    rw [trace_cons, List.forall_mem_cons] at happlied
    rw [List.forall_mem_cons] at hclear
    obtain ⟨_, _, -, hstep, -⟩ := step_above base hclear.1 happlied.1
    rw [run_cons, run_cons, hstep]
    exact ih hclear.2 happlied.2

theorem run_eq_above (base : Calculator) {steps : List Step}
    (hclear : ∀ s ∈ steps, s.command ≠ .ok .clear)
    (happlied : ∀ reply ∈ fresh.trace steps, reply.1.applied = true) :
    base.run steps = (fresh.run steps).above base := by
  rw [← run_above base hclear happlied, fresh_above]

/-- **A script keeps to its own part of the state.**  Take a script without `clear` that the fresh
calculator carries out entirely.  On top of any state, whether or not it can be reached, the script
ends with the values and records that it ends with for the fresh calculator, on top of those that
were there; and so it is at every moment of the script, so its `undo`s find no records but its own.
Every step of it is carried out and reported with the same severity, and unless it is `print` with
the same outcome altogether. -/
theorem script_keeps_to_its_own (base : Calculator) (steps : List Step)
    (hclear : ∀ s ∈ steps, s.command ≠ .ok .clear)
    (happlied : ∀ reply ∈ fresh.trace steps, reply.1.applied = true) :
    (base.run steps).stack.values = base.stack.values ++ (fresh.run steps).stack.values ∧
      (base.run steps).history.oldestFirst =
        base.history.oldestFirst ++ (fresh.run steps).history.oldestFirst ∧
      ∀ before s rest, steps = before ++ s :: rest →
        base.run before = (fresh.run before).above base ∧
          ∃ outcome outcome', ((fresh.run before).step s).1 = .ok outcome ∧
            ((base.run before).step s).1 = .ok outcome' ∧ outcome'.applied = true ∧
            outcome'.severity = outcome.severity ∧
            (s.command ≠ .ok .print → outcome' = outcome) := by
  have hrun := run_eq_above base hclear happlied
  refine ⟨by rw [hrun, above, Stack.values_above],
    by rw [hrun, above, History.oldestFirst_above], ?_⟩
  rintro before s rest rfl
  rw [List.forall_mem_append, List.forall_mem_cons] at hclear
  rw [trace_append, List.forall_mem_append, trace_cons, List.forall_mem_cons] at happlied
  have hbefore := run_eq_above base hclear.1 happlied.1
  obtain ⟨outcome, outcome', hstep, hstep', hreport⟩ :=
    step_above base hclear.2.1 happlied.2.1
  rw [hbefore, hstep, hstep']
  exact ⟨rfl, outcome, outcome', rfl, rfl, hreport⟩

/-- A sum that is taken back again, on top of a zero that has been negated. -/
theorem run_above_negated_zero :
    let base := fresh.run [.line "0", .line "neg"]
    let script : List Step := [.line "2", .line "PUSH 3", .perform .add, .line "print", .undo]
    (∀ s ∈ script, s.command ≠ .ok .clear) ∧
      (∀ reply ∈ fresh.trace script, reply.1.applied = true) ∧
      (base.run script).stack.values = base.stack.values ++ (fresh.run script).stack.values ∧
      (base.run script).history.oldestFirst =
        base.history.oldestFirst ++ (fresh.run script).history.oldestFirst := by
  intro base script
  have hclear : ∀ s ∈ script, s.command ≠ .ok .clear := by
    intro s hs
    simp only [script, List.mem_cons, List.not_mem_nil, or_false] at hs
    rcases hs with rfl | rfl | rfl | rfl | rfl <;> exact nofun
  have happlied : ∀ reply ∈ fresh.trace script, reply.1.applied = true :=
    List.all_eq_true.1 (show (fresh.trace script).all (·.1.applied) = true from rfl)
  obtain ⟨hvalues, hrecords, -⟩ := script_keeps_to_its_own base script hclear happlied
  exact ⟨hclear, happlied, hvalues, hrecords⟩

end Calculator

end StackCalculator
