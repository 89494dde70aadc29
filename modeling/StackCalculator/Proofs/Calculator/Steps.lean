import StackCalculator.Calculator.Execute

/-!
# Commands, steps and runs

Everything that is proved about the calculator's state goes through this file.  It says once what a
command can do to the state, and then what the four ways of using a calculator from outside come to.

* `Calculator.apply_bare` — a command that is no `undo` looks at the stack only, and what it does
  there is what `Command.act` does on a bare stack.
* `Calculator.outcome_of_apply` — what the outcome of a command says beside its message.
* `Calculator.exists_record_of_apply` — a mutating command that is carried out adds one record, of
  its own kind, and reverting that record gives back the stack as it was.
* `Calculator.apply_undo_of_apply` — hence an `undo` right after it leads back to the state before,
  the history included.  This holds in every state, not only in those that can be reached.
* `Calculator.apply_undo_eq_ok_iff` — all that can come of an `undo` that is carried out.
* `Calculator.step_eq` — a step is its command, if it has one, carried out by `apply`; the ways of
  using the calculator differ only in how they put a failure.

`Calculator.run` and `Calculator.trace` let steps follow each other: the one ends in a state, the
other keeps every answer and every state on the way.
-/

set_option autoImplicit false

namespace StackCalculator

/-! ## What is on the stack when values are taken from it -/

theorem bind_eq_ok {ε α β : Type} {x : Except ε α} {f : α → Except ε β} {b : β} :
    (x >>= f) = .ok b ↔ ∃ a, x = .ok a ∧ f a = .ok b := by
  cases x with
  | error e => exact ⟨nofun, fun ⟨_, h, _⟩ => absurd h nofun⟩
  | ok a => exact ⟨fun h => ⟨a, rfl, h⟩, fun ⟨_, h, hb⟩ => by cases h; exact hb⟩

theorem exists_eq_ok_iff {ε α : Type} {x : Except ε α} :
    (∃ a, x = .ok a) ↔ ¬ ∃ e, x = .error e := by
  cases x with
  | ok a => exact ⟨fun _ => nofun, fun _ => ⟨a, rfl⟩⟩
  | error e => exact ⟨nofun, fun h => absurd ⟨e, rfl⟩ h⟩

theorem mapError_eq_ok {ε ε' α : Type} {x : Except ε α} {f : ε → ε'} {a : α} :
    x.mapError f = .ok a ↔ x = .ok a := by
  cases x with
  | error e => exact ⟨nofun, nofun⟩
  | ok a' => exact ⟨fun h => by cases h; rfl, fun h => by cases h; rfl⟩

namespace Stack

theorem pop_eq_ok {s rest : Stack} {x : Double} : s.pop = .ok (x, rest) ↔ s = rest.push x := by
  constructor
  · intro h
    obtain ⟨_ | ⟨y, ys⟩⟩ := s
    · exact absurd h nofun
    · cases h
      rfl
  · rintro rfl
    exact pop_push rest x

/-- Pushing all values of a stack onto the empty one gives the stack back. -/
theorem pushAll_values (s : Stack) : Stack.empty.pushAll s.values = s := by
  rw [← values_inj, values_pushAll, values_empty, List.nil_append]

end Stack

namespace Calculator

theorem takeOne_eq_ok {s rest : Stack} {action : String} {x : Double} :
    takeOne s action = .ok (x, rest) ↔ s = rest.push x := by
  rw [takeOne, mapError_eq_ok, Stack.pop_eq_ok]

theorem takeTwo_eq_ok {s rest : Stack} {action : String} {x y : Double} :
    takeTwo s action = .ok (x, y, rest) ↔ s = (rest.push y).push x := by
  constructor
  · intro h
    obtain ⟨_, _, h⟩ := bind_eq_ok.1 h
    obtain ⟨⟨x', t⟩, hx, h⟩ := bind_eq_ok.1 h
    obtain ⟨⟨y', u⟩, hy, h⟩ := bind_eq_ok.1 h
    cases h
    rw [Stack.pop_eq_ok.1 (mapError_eq_ok.1 hx), Stack.pop_eq_ok.1 (mapError_eq_ok.1 hy)]
  · rintro rfl
    rfl

end Calculator

/-! ## Commands on a bare stack -/

/-- What a command does where there is a stack and nothing else: no history is kept, so there is
nothing to undo. -/
def Command.act (s : Stack) : Command → Except CommandError (Outcome × Stack)
  | .push x => .ok (.done ("Pushed " ++ toString x), ⟨x :: s.topDown⟩)
  | .pop =>
    match s.topDown with
    | x :: rest => .ok (.done ("Popped " ++ toString x), ⟨rest⟩)
    | [] => .error (.nothingTo "pop")
  | .clear =>
    match s.topDown with
    | _ :: _ => .ok (.done ("Cleared " ++ toString s.topDown.length ++ " element(s)"), ⟨[]⟩)
    | [] => .error (.nothingTo "clear")
  | .add =>
    match s.topDown with
    | x :: y :: rest =>
      .ok (.done ("Added " ++ toString x ++ " and " ++ toString y), ⟨x.add y :: rest⟩)
    | _ => .error (.insufficientOperands "add")
  | .mul =>
    match s.topDown with
    | x :: y :: rest =>
      .ok (.done ("Multiplied " ++ toString x ++ " by " ++ toString y), ⟨x.mul y :: rest⟩)
    | _ => .error (.insufficientOperands "multiply")
  | .neg =>
    match s.topDown with
    | x :: rest => .ok (.done ("Negated " ++ toString x), ⟨x.neg :: rest⟩)
    | [] => .error (.emptyStack "negate")
  | .inv =>
    match s.topDown with
    | x :: rest => .ok (Calculator.inverted x, ⟨x.inv :: rest⟩)
    | [] => .error (.emptyStack "invert")
  | .undo => .error .nothingToUndo
  | .print => .ok (Calculator.printed s, s)
  | .help =>
    .ok ({ Outcome.done (helpText ++ "\n" ++ promptText) with severity := .info }, s)
  | .quit => .ok ({ Outcome.done "Quit requested" with effect := .quit }, s)

namespace Calculator

/-- **A command that is no `undo` looks at the stack only.**  What it answers and what it leaves on
the stack is what it does on a bare stack. -/
theorem apply_bare (c : Calculator) {command : Command} (h : command ≠ .undo) :
    (c.apply command).map (fun reply => (reply.1, reply.2.stack)) = command.act c.stack := by
  obtain ⟨⟨values⟩, history⟩ := c
  cases command with
  | undo => exact absurd rfl h
  | push x => rfl
  | pop => rcases values with _ | ⟨x, rest⟩ <;> rfl
  | clear => rcases values with _ | ⟨x, rest⟩ <;> rfl
  | add => rcases values with _ | ⟨x, _ | ⟨y, rest⟩⟩ <;> rfl
  | mul => rcases values with _ | ⟨x, _ | ⟨y, rest⟩⟩ <;> rfl
  | neg => rcases values with _ | ⟨x, rest⟩ <;> rfl
  | inv => rcases values with _ | ⟨x, rest⟩ <;> rfl
  | print => rfl
  | help => rfl
  | quit => rfl

/-- What is left to do after a command that is carried out. -/
def effect (c : Calculator) : Command → Effect
  | .print => .print c.stack.listing
  | .quit => .quit
  | _ => .none

/-- What the outcome of a command that is carried out says beside its message. -/
theorem outcome_of_apply {c after : Calculator} {command : Command} {outcome : Outcome}
    (h : c.apply command = .ok (outcome, after)) :
    outcome.applied = true ∧ outcome.effect = c.effect command := by
  cases command with
  | push x => cases h; exact ⟨rfl, rfl⟩
  | pop => obtain ⟨_, _, h⟩ := bind_eq_ok.1 h; cases h; exact ⟨rfl, rfl⟩
  | clear =>
    rw [apply] at h
    split at h
    · cases h
    · cases h; exact ⟨rfl, rfl⟩
  | add => obtain ⟨_, _, h⟩ := bind_eq_ok.1 h; cases h; exact ⟨rfl, rfl⟩
  | mul => obtain ⟨_, _, h⟩ := bind_eq_ok.1 h; cases h; exact ⟨rfl, rfl⟩
  | neg => obtain ⟨_, _, h⟩ := bind_eq_ok.1 h; cases h; exact ⟨rfl, rfl⟩
  | inv =>
    obtain ⟨⟨x, rest⟩, _, h⟩ := bind_eq_ok.1 h
    cases h
    rw [inverted]
    split <;> exact ⟨rfl, rfl⟩
  | undo =>
    rw [apply] at h
    split at h
    · cases h
    · obtain ⟨_, _, h⟩ := bind_eq_ok.1 h; cases h; exact ⟨rfl, rfl⟩
  | print => cases h; exact ⟨rfl, rfl⟩
  | help => cases h; exact ⟨rfl, rfl⟩
  | quit => cases h; exact ⟨rfl, rfl⟩

end Calculator

/-! ## Commands and their records -/

/-- The command that a record is of, a push with the value that was pushed. -/
def Record.command : Record → Command
  | .push x => .push x
  | .pop _ => .pop
  | .clear _ => .clear
  | .add .. => .add
  | .mul .. => .mul
  | .neg _ => .neg
  | .inv _ => .inv

theorem Record.keyword_command (record : Record) : record.command.keyword = record.name := by
  cases record <;> rfl

namespace Calculator

/-- **A mutating command leaves one record**, of its own kind, and reverting that record on the new
stack gives back the old one.  The operands that the record keeps are all that this takes. -/
theorem exists_record_of_apply {c after : Calculator} {command : Command} {outcome : Outcome}
    (hmut : command.isMutating = true) (h : c.apply command = .ok (outcome, after)) :
    ∃ record : Record, record.command = command ∧ after.history = c.history.record record ∧
      record.revert after.stack = .ok c.stack := by
  cases command with
  | push x =>
    cases h
    exact ⟨.push x, rfl, rfl, rfl⟩
  | pop =>
    obtain ⟨⟨x, rest⟩, hpop, h⟩ := bind_eq_ok.1 h
    cases h
    rw [mapError_eq_ok, Stack.pop_eq_ok] at hpop
    exact ⟨.pop x, rfl, rfl, by rw [hpop]; rfl⟩
  | clear =>
    rw [apply] at h
    split at h
    · exact absurd h nofun
    · cases h
      exact ⟨.clear c.stack.values, rfl, rfl, congrArg Except.ok c.stack.pushAll_values⟩
  | add =>
    obtain ⟨⟨x, y, rest⟩, htake, h⟩ := bind_eq_ok.1 h
    cases h
    exact ⟨.add x y, rfl, rfl, by rw [takeTwo_eq_ok.1 htake]; rfl⟩
  | mul =>
    obtain ⟨⟨x, y, rest⟩, htake, h⟩ := bind_eq_ok.1 h
    cases h
    exact ⟨.mul x y, rfl, rfl, by rw [takeTwo_eq_ok.1 htake]; rfl⟩
  | neg =>
    obtain ⟨⟨x, rest⟩, htake, h⟩ := bind_eq_ok.1 h
    cases h
    exact ⟨.neg x, rfl, rfl, by rw [takeOne_eq_ok.1 htake]; rfl⟩
  | inv =>
    obtain ⟨⟨x, rest⟩, htake, h⟩ := bind_eq_ok.1 h
    cases h
    exact ⟨.inv x, rfl, rfl, by rw [takeOne_eq_ok.1 htake]; rfl⟩
  | undo | print | help | quit => exact absurd hmut nofun

/-- An `undo` reverts the most recent record on the stack and drops it. -/
theorem apply_undo_eq {c : Calculator} {record : Record} (h : c.history.last? = some record) :
    c.apply .undo = ((record.revert c.stack).mapError .stack).map fun s =>
      (.done ("Undid " ++ record.name), ⟨s, c.history.dropLast⟩) := by
  simp only [apply, h]
  rfl

/-- All that can come of an `undo` that is carried out. -/
theorem apply_undo_eq_ok_iff {c after : Calculator} {outcome : Outcome} :
    c.apply .undo = .ok (outcome, after) ↔
      ∃ record, c.history.last? = some record ∧ record.revert c.stack = .ok after.stack ∧
        after.history = c.history.dropLast ∧ outcome = .done ("Undid " ++ record.name) := by
  constructor
  · intro h
    cases hlast : c.history.last? with
    | none => simp only [apply, hlast] at h; cases h
    | some record =>
      rw [apply_undo_eq hlast] at h
      cases hrevert : record.revert c.stack with
      | error error => rw [hrevert] at h; cases h
      | ok s => rw [hrevert] at h; cases h; exact ⟨record, rfl, hrevert, rfl, rfl⟩
  · rintro ⟨record, hlast, hrevert, hhistory, rfl⟩
    rw [apply_undo_eq hlast, hrevert, ← hhistory]
    rfl

/-- **An `undo` right after a mutating command leads back to the state before it**, whatever state
that was. -/
theorem apply_undo_of_apply {c after : Calculator} {command : Command} {outcome : Outcome}
    (hmut : command.isMutating = true) (h : c.apply command = .ok (outcome, after)) :
    after.apply .undo = .ok (.done ("Undid " ++ command.keyword), c) := by
  obtain ⟨record, hcommand, hhistory, hrevert⟩ := exists_record_of_apply hmut h
  simp only [apply, hhistory, History.last?_record, History.dropLast_record]
  rw [hrevert, ← hcommand, record.keyword_command]
  rfl

/-- What is neither mutating nor `undo` leaves the state alone. -/
theorem eq_of_apply {c after : Calculator} {command : Command} {outcome : Outcome}
    (hmut : command.isMutating = false) (hundo : command ≠ .undo)
    (h : c.apply command = .ok (outcome, after)) : after = c := by
  cases command with
  | undo => exact absurd rfl hundo
  | print | help | quit => cases h; rfl
  | push x | pop | clear | add | mul | neg | inv => exact absurd hmut nofun

end Calculator

/-! ## Steps -/

/-- Something done to a calculator from outside. -/
inductive Step where
  /-- A line of text is given to it. -/
  | line (text : String)
  /-- A command is given to it; failing counts as an outcome. -/
  | perform (command : Command)
  /-- A command is given to it; failing counts as an error. -/
  | apply (command : Command)
  /-- The most recent change is taken back. -/
  | undo

/-- What comes back from a step: an outcome, or an error where failing is not an outcome. -/
abbrev Answer := Except CommandError Outcome

/-- Whether a step was carried out, going by its answer. -/
def Answer.applied : Answer → Bool
  | .ok outcome => outcome.applied
  | .error _ => false

namespace Step

/-- The command of a step.  A line may have none. -/
def command : Step → Except CommandError Command
  | .line text => Command.parse text
  | .perform command => .ok command
  | .apply command => .ok command
  | .undo => .ok .undo

/-- The answer to a step that fails. -/
def refuse (error : CommandError) : Step → Answer
  | .apply _ => .error error
  | _ => .ok (.rejected error)

theorem applied_refuse (s : Step) (error : CommandError) : (s.refuse error).applied = false := by
  cases s <;> rfl

/-- A step that fails leaves nothing to do. -/
theorem effect_of_refuse {s : Step} {error : CommandError} {outcome : Outcome}
    (h : s.refuse error = .ok outcome) : outcome.effect = .none := by
  cases s with
  | apply command => cases h
  | line text | perform command | undo => cases h; rfl

end Step

namespace Calculator

/-- What a step comes to: its answer and the state afterwards. -/
def step (c : Calculator) : Step → Answer × Calculator
  | .line text => (.ok (c.execute text).outcome, (c.execute text).after)
  | .perform command => (.ok (c.perform command).outcome, (c.perform command).after)
  | .apply command =>
    match c.apply command with
    | .ok (outcome, after) => (.ok outcome, after)
    | .error error => (.error error, c)
  | .undo => (.ok c.undo.outcome, c.undo.after)

/-- A step is its command carried out; the kinds of steps differ in how they put a failure. -/
theorem step_eq (c : Calculator) (s : Step) :
    c.step s = match s.command >>= c.apply with
      | .ok (outcome, after) => (.ok outcome, after)
      | .error error => (s.refuse error, c) := by
  have hcommand : ∀ command : Command, (Except.ok command >>= c.apply) = c.apply command :=
    fun _ => rfl
  cases s with
  | line text =>
    simp only [step, execute, Step.command]
    cases Command.parse text with
    | error error => rfl
    | ok command =>
      simp only [hcommand, reply]
      cases c.apply command <;> rfl
  | perform command =>
    rw [Step.command, hcommand, step, perform, reply]
    cases c.apply command <;> rfl
  | apply command =>
    rw [Step.command, hcommand, step]
    cases c.apply command <;> rfl
  | undo =>
    rw [Step.command, hcommand, step, undo, perform, reply]
    cases c.apply .undo <;> rfl

/-- A step whose command is carried out. -/
theorem step_of_apply {c after : Calculator} {s : Step} {command : Command} {outcome : Outcome}
    (hcommand : s.command = .ok command) (h : c.apply command = .ok (outcome, after)) :
    c.step s = (.ok outcome, after) := by
  rw [step_eq, hcommand, show (Except.ok command >>= c.apply) = _ from h]

/-- A step that fails, because it has no command or because its command fails, changes nothing. -/
theorem step_of_error {c : Calculator} {s : Step} {error : CommandError}
    (h : s.command >>= c.apply = .error error) : c.step s = (s.refuse error, c) := by
  rw [step_eq, h]

/-- A step is carried out exactly if it has a command that is. -/
theorem applied_step_iff {c : Calculator} {s : Step} :
    (c.step s).1.applied = true ↔
      ∃ command outcome after, s.command = .ok command ∧
        c.apply command = .ok (outcome, after) := by
  constructor
  · intro h
    cases hresult : s.command >>= c.apply with
    | error error => rw [step_of_error hresult, s.applied_refuse] at h; exact absurd h nofun
    | ok reply =>
      obtain ⟨command, hcommand, happly⟩ := bind_eq_ok.1 hresult
      exact ⟨command, reply.1, reply.2, hcommand, happly⟩
  · rintro ⟨command, outcome, after, hcommand, h⟩
    rw [step_of_apply hcommand h]
    exact (outcome_of_apply h).1

/-- A step that is not carried out is refused, and changes nothing. -/
theorem exists_step_eq_refuse {c : Calculator} {s : Step} (h : (c.step s).1.applied = false) :
    ∃ error, c.step s = (s.refuse error, c) := by
  cases hresult : s.command >>= c.apply with
  | error error => exact ⟨error, step_of_error hresult⟩
  | ok reply =>
    obtain ⟨command, hcommand, happly⟩ := bind_eq_ok.1 hresult
    have := applied_step_iff.2 ⟨command, reply.1, reply.2, hcommand, happly⟩
    exact absurd this (by simp [h])

theorem step_of_not_applied {c : Calculator} {s : Step} (h : (c.step s).1.applied = false) :
    (c.step s).2 = c := by
  obtain ⟨error, hstep⟩ := exists_step_eq_refuse h
  rw [hstep]

/-! ## Runs -/

/-- The state that steps lead to. -/
def run (c : Calculator) (steps : List Step) : Calculator :=
  steps.foldl (fun c s => (c.step s).2) c

/-- The answer to every step, with the state after it. -/
def trace (c : Calculator) : List Step → List (Answer × Calculator)
  | [] => []
  | s :: steps => c.step s :: trace (c.step s).2 steps

@[simp] theorem run_nil (c : Calculator) : c.run [] = c := rfl

@[simp] theorem run_cons (c : Calculator) (s : Step) (steps : List Step) :
    c.run (s :: steps) = (c.step s).2.run steps := rfl

@[simp] theorem run_append (c : Calculator) (steps steps' : List Step) :
    c.run (steps ++ steps') = (c.run steps).run steps' := List.foldl_append

@[simp] theorem trace_nil (c : Calculator) : c.trace [] = [] := rfl

@[simp] theorem trace_cons (c : Calculator) (s : Step) (steps : List Step) :
    c.trace (s :: steps) = c.step s :: (c.step s).2.trace steps := rfl

theorem trace_append (c : Calculator) (steps steps' : List Step) :
    c.trace (steps ++ steps') = c.trace steps ++ (c.run steps).trace steps' := by
  induction steps generalizing c with
  | nil => rfl
  | cons s steps ih => rw [List.cons_append, trace_cons, ih, trace_cons, List.cons_append, run_cons]

end Calculator

end StackCalculator
