import StackCalculator.Proofs.Session.Endings

/-!
# A destination that fails

Listings go to a destination, and nothing comes back from it but whether writing worked.  This file
compares two sessions that are given the same lines and have the same calculator, but have
destinations of different kinds, each of which may fail at any write and at any flush.

* `Session.events_feed_congr` — what a line reports is told by the calculator alone.
* `Session.reports_congr` — so are the reports of any lines, since the calculators stay the same.
* `Session.result_feed_of_not_print` — only `print` asks the destination for anything, so every
  other line has the same result in both sessions.

`Session.destination_never_reaches_calculator` puts these together: **the two sessions can be told
apart by the results of `print` and by nothing else**, however often writing fails.
-/

set_option autoImplicit false

namespace StackCalculator.Session

variable {δ δ' : Type} [Destination δ] [Destination δ']

/-- What a line reports depends on the calculator and not on where listings go. -/
theorem events_feed_congr {s : Session δ} {s' : Session δ'} (h : s.calculator = s'.calculator)
    (line : String) : (s.feed line).events = (s'.feed line).events := by
  by_cases hblank : Text.trim line.toList = []
  · rw [s.feed_of_blank hblank, s'.feed_of_blank hblank]
  · rw [s.feed_of_not_blank hblank, s'.feed_of_not_blank hblank, events_settle, events_settle, h]

theorem calculator_feed_congr {s : Session δ} {s' : Session δ'} (h : s.calculator = s'.calculator)
    (line : String) : (s.feed line).session.calculator = (s'.feed line).session.calculator := by
  rw [calculator_feed, calculator_feed, h]

theorem calculator_after_congr {s : Session δ} {s' : Session δ'} (h : s.calculator = s'.calculator)
    (lines : List String) : (s.after lines).calculator = (s'.after lines).calculator := by
  rw [calculator_after, calculator_after, h]

/-- What any number of lines report depends on the calculator and not on where listings go. -/
theorem reports_congr {s : Session δ} {s' : Session δ'} (h : s.calculator = s'.calculator)
    (lines : List String) : s.reports lines = s'.reports lines := by
  induction lines generalizing s s' with
  | nil => rfl
  | cons line lines ih =>
    rw [reports, reports, events_feed_congr h, ih (calculator_feed_congr h line)]

/-- A line that is no `print` asks the destination for nothing. -/
theorem result_feed_of_not_print (s : Session δ) {line : String}
    (h : isCommand .print line = false) :
    (s.feed line).result = .ok (if isCommand .quit line then .quit else .continue) := by
  have hwrite : s.writeFailure? line = none := by simp [writeFailure?, h]
  rw [result_feed, hwrite]
  split <;> rfl

/-- All that can go wrong with a line is that a listing is not written. -/
theorem result_feed_eq_ok_or_error (s : Session δ) (line : String) :
    (∃ flow, (s.feed line).result = .ok flow) ∨
      isCommand .print line = true ∧ ∃ text, (s.feed line).result = .error (.io text) := by
  cases hprint : isCommand .print line with
  | false => exact .inl ⟨_, s.result_feed_of_not_print hprint⟩
  | true =>
    rcases hresult : (s.feed line).result with error | flow
    · obtain ⟨text, rfl, -⟩ := result_feed_eq_error_iff.1 hresult
      exact .inr ⟨rfl, text, rfl⟩
    · exact .inl ⟨flow, rfl⟩

/-- **A failing destination never reaches the calculator.**  Two sessions with the same calculator,
but each with a destination of its own, are given the same lines, whatever came of each.  After
every line they have the same stack and the same history, which are those of the bare calculator,
and the same log.  The results differ at most where a `print` could be written by the one and not by
the other, and such a line is the only one that can fail.  A `print` that has failed makes no
difference to any further lines. -/
theorem destination_never_reaches_calculator (c : Calculator) (out : δ) (out' : δ')
    (lines : List String) (line : String) (more : List String) :
    let call := ((Session.mk c out).after lines).feed line
    let call' := ((Session.mk c out').after lines).feed line
    call.session.calculator = c.run ((lines ++ [line]).map .line) ∧
    call.session.calculator = call'.session.calculator ∧
    (Session.mk c out).reports lines ++ call.events =
      (Session.mk c out').reports lines ++ call'.events ∧
    (call.result = call'.result ∨ isCommand .print line = true) ∧
    ((∃ flow, call.result = .ok flow) ∨
      isCommand .print line = true ∧ ∃ text, call.result = .error (.io text)) ∧
    (call.session.after more).calculator = (call'.session.after more).calculator ∧
    call.session.reports more = call'.session.reports more := by
  have hstart : (Session.mk c out).calculator = (Session.mk c out').calculator := rfl
  have hbefore := calculator_after_congr hstart lines
  have hafter := calculator_feed_congr hbefore line
  refine ⟨?_, hafter, ?_, ?_, result_feed_eq_ok_or_error _ line,
    calculator_after_congr hafter more, reports_congr hafter more⟩
  · rw [List.map_append, Calculator.run_append, ← (Session.mk c out).calculator_after]
    exact calculator_feed _ line
  · rw [events_feed_congr hbefore, reports_congr hstart]
  · cases hprint : isCommand .print line with
    | true => exact .inr rfl
    | false =>
      rw [result_feed_of_not_print _ hprint, result_feed_of_not_print _ hprint]
      exact .inl rfl

end StackCalculator.Session
