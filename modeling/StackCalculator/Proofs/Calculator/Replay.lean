import StackCalculator.Proofs.Calculator.Changes
import Mathlib.Data.List.Induction

/-!
# The history can be replayed

The records of the history are a log of the commands whose changes are in force: nothing else is in
it, nothing is missing, and nothing but the log is needed to arrive at the same state again.

* `Calculator.Made.run_eq` — steps that carry out the commands in force, in their order, lead from
  the fresh calculator to the state itself, however the commands are given; none of them fails.
* `Erases` — the ways of shortening a script that ought not to matter: to leave out a step that is
  not carried out, or that only shows something or ends the session, and to leave out a change
  together with the `undo` right after it.
* `Calculator.history_replays` — **the main result**: kind by kind the history lists the commands in
  force; carrying out just these ends in the very same state, record by record; and shortening a
  script as above never changes the state it ends in, down to the script that has only the steps in
  force left.
-/

set_option autoImplicit false

namespace StackCalculator

/-- The step by which a command is repeated: the value of a push is handed over as it is, and the
other commands are typed. -/
def Step.repeating : Command → Step
  | .push x => .apply (.push x)
  | command => .line command.keyword

theorem Step.command_repeating (command : Command) :
    (Step.repeating command).command = .ok command := by
  cases command <;> rfl

namespace Calculator

/-- The commands in force after some steps of a fresh calculator, in the order in which they were
carried out. -/
def commandsInForce (steps : List Step) : List Command :=
  (changes steps).reverse.map Change.command

/-- The steps in force: those of the script that carried out the commands in force. -/
def stepsInForce (steps : List Step) : List Step := (changes steps).reverse.map Change.step

/-! ## Replaying -/

/-- Steps with the commands in force lead to the state that is made by these, and are all carried
out. -/
theorem Made.run_eq {changes : List Change} {c : Calculator} (h : Made changes c)
    {steps : List Step}
    (hsteps : steps.map Step.command = changes.reverse.map fun change => .ok change.command) :
    fresh.run steps = c ∧ ∀ reply ∈ fresh.trace steps, reply.1.applied = true := by
  induction h generalizing steps with
  | nil =>
    obtain rfl : steps = [] := by simpa using hsteps
    exact ⟨rfl, nofun⟩
  | @cons changes c after s command outcome hmade hs hmut happly ih =>
    rw [List.reverse_cons, List.map_append, List.map_eq_append_iff] at hsteps
    obtain ⟨before, last, rfl, hbefore, hlast⟩ := hsteps
    obtain ⟨t, rfl, ht⟩ := List.map_eq_singleton_iff.1 hlast
    obtain ⟨hrun, happlied⟩ := ih hbefore
    have hstep : c.step t = (.ok outcome, after) := step_of_apply ht happly
    refine ⟨by rw [run_append, hrun, run_cons, hstep, run_nil], ?_⟩
    rw [trace_append, hrun]
    intro reply hreply
    rcases List.mem_append.1 hreply with hreply | hreply
    · exact happlied reply hreply
    · rw [trace_cons, trace_nil, List.mem_singleton] at hreply
      rw [hreply, hstep]
      exact (outcome_of_apply happly).1

/-- The steps that made the changes have the commands of the changes. -/
theorem Made.map_command_step {changes : List Change} {c : Calculator} (h : Made changes c) :
    (changes.map Change.step).map Step.command = changes.map fun change => .ok change.command := by
  induction h with
  | nil => rfl
  | cons _ hs _ _ ih => rw [List.map_cons, List.map_cons, ih, hs, List.map_cons]

/-- The steps that made the changes lead to the state on their own. -/
theorem Made.run_steps {changes : List Change} {c : Calculator} (h : Made changes c) :
    fresh.run (changes.reverse.map Change.step) = c := by
  refine (h.run_eq ?_).1
  rw [List.map_reverse, List.map_reverse, h.map_command_step, List.map_reverse]

/-! ## Shortening a script -/

/-- A step is idle if it is not carried out, or if its command is one of those that change
nothing. -/
def IsIdle (c : Calculator) (s : Step) : Prop :=
  (c.step s).1.applied = false ∨
    ∃ command, s.command = .ok command ∧ command ∈ [.print, .help, .quit]

/-- A step makes a change if it carries out a mutating command. -/
def MakesChange (c : Calculator) (s : Step) : Prop :=
  (c.step s).1.applied = true ∧
    ∃ command, s.command = .ok command ∧ command.isMutating = true

/-- The second script comes from the first, for a fresh calculator, by leaving out idle steps and
changes together with the `undo` right after them, any number of times. -/
inductive Erases : List Step → List Step → Prop
  | refl (steps : List Step) : Erases steps steps
  | idle {steps before after : List Step} {s : Step} (h : Erases steps (before ++ s :: after))
      (hidle : (fresh.run before).IsIdle s) : Erases steps (before ++ after)
  | pair {steps before after : List Step} {s u : Step}
      (h : Erases steps (before ++ s :: u :: after)) (hs : (fresh.run before).MakesChange s)
      (hu : u.command = .ok .undo) : Erases steps (before ++ after)

theorem step_of_isIdle {c : Calculator} {s : Step} (h : c.IsIdle s) : (c.step s).2 = c := by
  rcases h with h | ⟨command, hs, hmem⟩
  · exact step_of_not_applied h
  · have hkeeps : ∃ outcome, c.apply command = .ok (outcome, c) := by
      simp only [List.mem_cons, List.not_mem_nil, or_false] at hmem
      rcases hmem with rfl | rfl | rfl <;> exact ⟨_, rfl⟩
    obtain ⟨outcome, happly⟩ := hkeeps
    rw [step_of_apply hs happly]

/-- A change and the `undo` right after it cancel. -/
theorem step_undo_of_makesChange {c : Calculator} {s u : Step} (h : c.MakesChange s)
    (hu : u.command = .ok .undo) : ((c.step s).2.step u).2 = c := by
  obtain ⟨happlied, command, hs, hmut⟩ := h
  obtain ⟨command', outcome, after, hs', happly⟩ := applied_step_iff.1 happlied
  obtain rfl : command = command' := by rw [hs] at hs'; cases hs'; rfl
  rw [step_of_apply hs happly, step_of_apply hu (apply_undo_of_apply hmut happly)]

/-- **Shortening a script does not change the state it ends in.** -/
theorem Erases.run_eq {steps rest : List Step} (h : Erases steps rest) :
    fresh.run rest = fresh.run steps := by
  induction h with
  | refl => rfl
  | idle _ hidle ih => rw [← ih, run_append, run_append, run_cons, step_of_isIdle hidle]
  | pair _ hs hu ih =>
    rw [← ih, run_append, run_append, run_cons, run_cons, step_undo_of_makesChange hs hu]

theorem Erases.append_right {steps rest : List Step} (h : Erases steps rest)
    (more : List Step) : Erases (steps ++ more) (rest ++ more) := by
  induction h with
  | refl => exact .refl _
  | idle _ hidle ih =>
    rw [List.append_assoc]
    exact .idle (by rwa [List.append_assoc] at ih) hidle
  | pair _ hs hu ih =>
    rw [List.append_assoc]
    exact .pair (by rwa [List.append_assoc] at ih) hs hu

/-- The last step in force made a change when the others were run without anything else. -/
theorem Made.makesChange {change : Change} {changes : List Change} {c : Calculator}
    (h : Made (change :: changes) c) :
    (fresh.run (changes.reverse.map Change.step)).MakesChange change.step := by
  cases h with
  | cons hmade hs hmut happly =>
    rw [hmade.run_steps]
    exact ⟨applied_step_iff.2 ⟨_, _, _, hs, happly⟩, _, hs, hmut⟩

theorem stepsInForce_eq (steps : List Step) :
    stepsInForce steps = (changes steps).reverse.map Change.step := rfl

/-- Every script shortens to the steps in force: of a script that has been shortened so far, the
next step is kept, idle, or takes back the last of those kept. -/
theorem erases_stepsInForce (steps : List Step) : Erases steps (stepsInForce steps) := by
  induction steps using List.reverseRecOn with
  | nil => exact .refl []
  | append_singleton steps s ih =>
    have hmade := made_changes steps
    have hrun : fresh.run (stepsInForce steps) = fresh.run steps := hmade.run_steps
    have hkept := ih.append_right [s]
    have herase : (fresh.run steps).IsIdle s → Erases (steps ++ [s]) (stepsInForce steps) := by
      intro hidle
      rw [← List.append_nil (stepsInForce steps)]
      exact .idle hkept (by rwa [hrun])
    rw [stepsInForce_eq, changes_append_singleton]
    cases happlied : ((fresh.run steps).step s).1.applied with
    | false =>
      rw [changesAfter_of_not_applied _ happlied]
      exact herase (.inl happlied)
    | true =>
      obtain ⟨command, outcome, after, hs, happly⟩ := applied_step_iff.1 happlied
      cases hmut : command.isMutating with
      | true =>
        rw [changesAfter_of_mutating _ hs hmut happly, List.reverse_cons, List.map_append]
        exact hkept
      | false =>
        by_cases hundo : command = .undo
        · subst hundo
          obtain ⟨change, rest, hrest, -, -, -⟩ := hmade.apply_undo happly
          rw [stepsInForce_eq, hrest, List.reverse_cons, List.map_append,
            List.append_assoc] at hkept
          rw [hrest] at hmade
          rw [changesAfter_undo _ hs happly, hrest, List.tail_cons,
            ← List.append_nil (List.map Change.step _)]
          exact .pair hkept hmade.makesChange hs
        · rw [changesAfter_of_idle _ hs hmut hundo happly]
          refine herase (.inr ⟨command, hs, ?_⟩)
          cases command with
          | undo => exact absurd rfl hundo
          | print | help | quit => simp
          | push x | pop | clear | add | mul | neg | inv => exact absurd hmut nofun

/-! ## The main result -/

/-- **The history is a log of the commands in force.**  After any steps of a fresh calculator, its
records, the oldest first, are one for each command in force, in order, of its kind.  Repeating just
these commands on a fresh calculator carries out all of them and ends in the same state: the same
stack, and record by record the same history.  Leaving out idle steps and changes together with
their `undo` never changes the state a script ends in, and it suffices to shorten the script to the
steps in force. -/
theorem history_replays (steps : List Step) :
    (fresh.run steps).history.newestFirst.reverse.map Record.command = commandsInForce steps ∧
      fresh.run ((commandsInForce steps).map Step.repeating) = fresh.run steps ∧
      (∀ reply ∈ fresh.trace ((commandsInForce steps).map Step.repeating),
        reply.1.applied = true) ∧
      (∀ rest, Erases steps rest → fresh.run rest = fresh.run steps) ∧
      Erases steps (stepsInForce steps) := by
  have hmade := made_changes steps
  have hcommands : ((commandsInForce steps).map Step.repeating).map Step.command =
      (changes steps).reverse.map fun change => .ok change.command := by
    simp only [commandsInForce, List.map_map, Function.comp_def, Step.command_repeating]
  obtain ⟨hrun, happlied⟩ := hmade.run_eq hcommands
  refine ⟨?_, hrun, happlied, fun _ h => h.run_eq, erases_stepsInForce steps⟩
  rw [List.map_reverse, hmade.map_command, commandsInForce, List.map_reverse]

/-- A misspelt line, and a negation with the `undo` after it, make no difference. -/
theorem run_without_negation :
    Erases [.apply (.push .nan), .perform .neg, .line " Ünd0", .line "UNDO "]
        [.apply (.push .nan)] ∧
      fresh.run [.apply (.push .nan)] =
        fresh.run [.apply (.push .nan), .perform .neg, .line " Ünd0", .line "UNDO "] := by
  have hfull : Erases [.apply (.push .nan), .perform .neg, .line " Ünd0", .line "UNDO "]
      ([.apply (.push .nan), .perform .neg] ++ .line " Ünd0" :: [.line "UNDO "]) := .refl _
  have hspelt : Erases [.apply (.push .nan), .perform .neg, .line " Ünd0", .line "UNDO "]
      ([.apply (.push .nan), .perform .neg] ++ [.line "UNDO "]) := .idle hfull (.inl rfl)
  have hnegated : Erases [.apply (.push .nan), .perform .neg, .line " Ünd0", .line "UNDO "]
      ([.apply (.push .nan)] ++ []) := .pair hspelt ⟨rfl, .neg, rfl, rfl⟩ rfl
  exact ⟨hnegated, (history_replays _).2.2.2.1 _ hnegated⟩

end Calculator

end StackCalculator
