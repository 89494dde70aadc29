import StackCalculator.Proofs.Calculator.Failures
import Mathlib.Data.List.Induction

/-!
# Where the values went

A value comes onto the stack by being pushed, and it leaves it by being popped, by being cleared or,
of two values, by being merged into one.  Nothing else changes how many there are.  So the records
of the history, added up, tell the depth of the stack.

* `Record.depth` — what the records add up to, and `Record.growth`, the part of each.
* `Record.size_of_revert` — reverting a record takes its part off again.  What a record adds is
  read off `Record.revert` alone: that is the only thing a record is there for.
* `Calculator.Made.size_eq_depth` — the depth of the stack is what the records add up to.
* `Calculator.Made.needs_le_depth` — the older records add up to as much as the command of the next
  one needs.
* `Calculator.values_conserved` — **the main result**, for every state that can be reached and every
  moment that its history tells of; and the history takes no more room than its length allows.
-/

set_option autoImplicit false

namespace StackCalculator

namespace Record

/-- How many of the records are of the command with this keyword. -/
def count (keyword : String) (records : List Record) : Nat :=
  records.countP fun r => r.name == keyword

/-- How many values were cleared, if the record is of a clear. -/
def cleared : Record → Nat
  | .clear xs => xs.length
  | _ => 0

/-- How many values the records hold that were cleared. -/
def totalCleared (records : List Record) : Nat := (records.map cleared).sum

/-- How deep the stack is after the commands that the records are of, if it was empty before. -/
def depth (records : List Record) : Int :=
  count "push" records - count "pop" records - count "add" records - count "mul" records
    - totalCleared records

/-- By how much the command has made the stack deeper. -/
def growth : Record → Int
  | .push _ => 1
  | .pop _ | .add .. | .mul .. => -1
  | .clear xs => -xs.length
  | .neg _ | .inv _ => 0

@[simp] theorem depth_nil : depth [] = 0 := rfl

/-- One more command makes the stack deeper by what it adds. -/
theorem depth_append_singleton (records : List Record) (r : Record) :
    depth (records ++ [r]) = depth records + r.growth := by
  cases r <;>
    simp [depth, count, totalCleared, cleared, growth, name] <;> omega

/-- Reverting a record takes off the stack what the command has added to it. -/
theorem size_of_revert {r : Record} {s before : Stack} (h : r.revert s = .ok before) :
    (s.size : Int) = before.size + r.growth := by
  cases r with
  | pop x => cases h; simp [growth]
  | clear xs => cases h; simp [growth]
  | push x | add first second | mul first second | neg x | inv x =>
    obtain ⟨⟨y, rest⟩, hpop, h⟩ := bind_eq_ok.1 h
    obtain rfl := Stack.pop_eq_ok.1 hpop
    cases h
    simp [growth]

/-- The values that are kept for later and the depth they account for are at most two for each
record. -/
theorem length_values_add_depth_le (records : List Record) :
    ((records.flatMap values).length : Int) + depth records ≤ 2 * records.length := by
  induction records using List.reverseRecOn with
  | nil => simp
  | append_singleton records r ih =>
    have hr : (r.values.length : Int) + r.growth ≤ 2 := by
      cases r <;> simp [values, growth]
    simp only [List.flatMap_append, List.flatMap_singleton, List.length_append,
      List.length_singleton, depth_append_singleton]
    omega

end Record

namespace Calculator

/-! ## The records and the depth -/

/-- **The records add up to the depth of the stack.** -/
theorem Made.size_eq_depth {changes : List Change} {c : Calculator} (h : Made changes c) :
    (c.stack.size : Int) = Record.depth c.history.oldestFirst := by
  induction h with
  | nil => rfl
  | cons hmade hs hmut happly ih =>
    obtain ⟨record, -, hhistory, hrevert⟩ := exists_record_of_apply hmut happly
    rw [hhistory, History.oldestFirst_record, Record.depth_append_singleton, ← ih]
    exact Record.size_of_revert hrevert

/-- The first records are the whole history of a state that changes alone make as well. -/
theorem Made.exists_take {changes : List Change} {c : Calculator} (h : Made changes c) (k : Nat) :
    ∃ changes' c', Made changes' c' ∧ c'.history.oldestFirst = c.history.oldestFirst.take k := by
  induction h with
  | nil => exact ⟨_, _, .nil, List.take_nil.symm⟩
  | @cons changes c after s command outcome hmade hs hmut happly ih =>
    obtain ⟨record, -, hhistory, -⟩ := exists_record_of_apply hmut happly
    have holdest : after.history.oldestFirst = c.history.oldestFirst ++ [record] := by
      rw [hhistory, History.oldestFirst_record]
    by_cases hk : k ≤ c.history.oldestFirst.length
    · rw [holdest, List.take_append_of_le_length hk]
      exact ih
    · refine ⟨_, _, .cons hmade hs hmut happly, (List.take_of_length_le ?_).symm⟩
      rw [holdest, List.length_append, List.length_singleton]
      omega

/-- What a clear leaves is the empty stack. -/
theorem stack_of_apply_clear {c after : Calculator} {outcome : Outcome}
    (h : c.apply .clear = .ok (outcome, after)) : after.stack = .empty := by
  rw [apply] at h
  split at h
  · cases h
  · cases h; rfl

/-- The records before the last one add up to as much as its command needs, and if it is of a clear,
there was something to clear. -/
theorem Made.needs_le_depth {changes : List Change} {c : Calculator} (h : Made changes c)
    {r : Record} {older : List Record} (hlast : c.history.oldestFirst = older ++ [r]) :
    (r.command.needs : Int) ≤ Record.depth older ∧ r ≠ .clear [] := by
  cases h with
  | nil => exact absurd hlast.symm (List.append_ne_nil_of_right_ne_nil older nofun)
  | cons hmade hs hmut happly =>
    obtain ⟨record, hcommand, hhistory, hrevert⟩ := exists_record_of_apply hmut happly
    rw [hhistory, History.oldestFirst_record] at hlast
    obtain ⟨rfl, hr⟩ := List.append_inj' hlast rfl
    cases hr
    have hneeds := needs_le_of_apply happly
    refine ⟨by rw [hcommand, ← hmade.size_eq_depth]; exact Int.ofNat_le.2 hneeds, ?_⟩
    -- reverting a clear of nothing gives back the empty stack, which cannot have been cleared
    rintro rfl
    obtain rfl := hcommand
    rw [stack_of_apply_clear happly] at hrevert
    have hempty := Except.ok.inj (show Except.ok Stack.empty = Except.ok _ from hrevert)
    rw [← hempty] at hneeds
    exact absurd hneeds (by decide)

theorem Made.depth_take_nonneg {changes : List Change} {c : Calculator} (h : Made changes c)
    (k : Nat) : 0 ≤ Record.depth (c.history.oldestFirst.take k) := by
  obtain ⟨changes', c', hmade, htake⟩ := h.exists_take k
  rw [← htake, ← hmade.size_eq_depth]
  exact Int.natCast_nonneg _

theorem Made.needs_le_depth_take {changes : List Change} {c : Calculator} (h : Made changes c)
    {k : Nat} {r : Record} (hr : c.history.oldestFirst[k]? = some r) :
    (r.command.needs : Int) ≤ Record.depth (c.history.oldestFirst.take k) ∧ r ≠ .clear [] := by
  obtain ⟨changes', c', hmade, htake⟩ := h.exists_take (k + 1)
  rw [List.take_add_one, hr] at htake
  exact hmade.needs_le_depth htake

/-! ## States that can be reached -/

/-- The records of the history account for the values on the stack. -/
structure Balanced (c : Calculator) : Prop where
  /-- There is one push for each value on the stack, each pop, each sum and each product, and for
  each value that was cleared. -/
  count_push : Record.count "push" c.history.oldestFirst = c.stack.size +
    Record.count "pop" c.history.oldestFirst + Record.count "add" c.history.oldestFirst +
    Record.count "mul" c.history.oldestFirst + Record.totalCleared c.history.oldestFirst
  /-- No clear was of nothing. -/
  clear_nil_not_mem : Record.clear [] ∉ c.history.oldestFirst
  /-- What the first records add up to is a depth. -/
  depth_nonneg (k : Nat) : 0 ≤ Record.depth (c.history.oldestFirst.take k)
  /-- It is as much as the command of the next record needs. -/
  needs_le_depth (k : Nat) (r : Record) (hr : c.history.oldestFirst[k]? = some r) :
    (r.command.needs : Int) ≤ Record.depth (c.history.oldestFirst.take k)
  /-- No more values are kept for clears than were pushed. -/
  totalCleared_le : Record.totalCleared c.history.oldestFirst ≤
    Record.count "push" c.history.oldestFirst
  /-- All the values that are kept, on the stack and in the history, are at most two for each
  record. -/
  size_le : c.stack.size + (c.history.oldestFirst.flatMap Record.values).length ≤
    2 * c.history.size

/-- **No value is lost or made up.**  Every state that steps lead to from the fresh calculator is
balanced: its records account for the values on its stack, at every moment that they tell of, and
take no more room than their number allows. -/
theorem values_conserved (steps : List Step) : (fresh.run steps).Balanced := by
  have hmade := made_changes steps
  have hsize := hmade.size_eq_depth
  have hvalues := Record.length_values_add_depth_le (fresh.run steps).history.oldestFirst
  rw [← hsize, History.length_oldestFirst] at hvalues
  rw [Record.depth] at hsize
  refine
    { count_push := by omega
      clear_nil_not_mem := fun hmem => ?_
      depth_nonneg := hmade.depth_take_nonneg
      needs_le_depth := fun k r hr => (hmade.needs_le_depth_take hr).1
      totalCleared_le := by omega
      size_le := by omega }
  obtain ⟨k, hk⟩ := List.mem_iff_getElem?.1 hmem
  exact (hmade.needs_le_depth_take hk).2 rfl

end Calculator

end StackCalculator
