import StackCalculator.Proofs.Calculator.Steps

/-!
# What the calculator's messages begin with

In a log the calculator's messages stand among those of the program around it, such as the farewell,
and they are not to be mistaken for each other.  The calculator reports at the level `info` what the
user asked to see and that an input asked for nothing; warnings and confirmations have other levels.
So there are few such messages, and all of them begin with one of three characters:
`Calculator.hasInitial_execute`.  A text that does not (`HasInitial`) is none of them.
-/

set_option autoImplicit false

namespace StackCalculator

/-- The characters that the calculator's messages at the level `info` begin with. -/
def initials : List Char := ['S', 'C', ' ']

/-- The text begins with one of these characters. -/
def HasInitial (text : String) : Prop := ∃ c ∈ initials, text.toList.head? = some c

-- The few characters are tried, and not all there are.
instance : DecidablePred HasInitial := fun text =>
  List.decidableBEx (fun c => text.toList.head? = some c) initials

theorem HasInitial.append {text : String} (h : HasInitial text) (rest : String) :
    HasInitial (text ++ rest) := by
  obtain ⟨c, hc, hhead⟩ := h
  refine ⟨c, hc, ?_⟩
  rw [String.toList_append, List.head?_append, hhead, Option.some_or]

theorem CommandError.hasInitial_message {error : CommandError} (h : error.severity = .info) :
    HasInitial error.message := by
  cases error with
  | nothingTo action =>
    have hstart : HasInitial "Stack is empty. Nothing to " := by decide
    exact (hstart.append _).append _
  | unrecognized input =>
    have hstart : HasInitial "Can not recognise the command : '" := by decide
    exact (hstart.append _).append _
  | invalidPush | emptyStack | insufficientOperands | nothingToUndo | stack => cases h

theorem hasInitial_helpText : HasInitial helpText := by
  unfold helpText
  -- only the first of the lines is looked at
  repeat refine HasInitial.append ?_ _
  decide

namespace Calculator

theorem hasInitial_printed (s : Stack) : HasInitial (printed s).message := by
  dsimp only [printed]
  split
  · decide
  · have hstart : HasInitial "Stack Elements : " := by decide
    exact hstart.append _

/-- Of the commands that are carried out, `print` and `help` alone report at the level `info`. -/
theorem hasInitial_of_apply {c after : Calculator} {command : Command} {outcome : Outcome}
    (h : c.apply command = .ok (outcome, after)) (hinfo : outcome.severity = .info) :
    HasInitial outcome.message := by
  cases command with
  | push x => cases h; cases hinfo
  | pop | add | mul | neg => obtain ⟨_, _, h⟩ := bind_eq_ok.1 h; cases h; cases hinfo
  | clear =>
    rw [apply] at h
    split at h
    · cases h
    · cases h; cases hinfo
  | inv =>
    obtain ⟨⟨x, rest⟩, _, h⟩ := bind_eq_ok.1 h
    cases h
    rw [inverted] at hinfo
    split at hinfo <;> cases hinfo
  | undo =>
    rw [apply] at h
    split at h
    · cases h
    · obtain ⟨_, _, h⟩ := bind_eq_ok.1 h; cases h; cases hinfo
  | print => cases h; exact hasInitial_printed c.stack
  | help => cases h; exact (hasInitial_helpText.append _).append _
  | quit => cases h; cases hinfo

theorem hasInitial_execute {c : Calculator} {line : String}
    (h : (c.execute line).outcome.severity = .info) :
    HasInitial (c.execute line).outcome.message := by
  revert h
  rw [execute]
  cases Command.parse line with
  | error error => exact CommandError.hasInitial_message
  | ok command =>
    simp only [reply]
    cases happly : c.apply command with
    | error error => exact CommandError.hasInitial_message
    | ok result => exact hasInitial_of_apply happly

end Calculator

end StackCalculator
