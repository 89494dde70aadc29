import StackCalculator.Proofs.Calculator.Failures
import StackCalculator.Proofs.Log.Lines
import StackCalculator.Proofs.Session.Listings

/-!
# What an outcome has in a log

An outcome tells of numbers, of depths, of the stack, or of the line that it is the outcome of.
None of these has a line feed if the line has none but at its end, and so an outcome has one line in
the log.  The one exception is the list of commands, which has many and is always the same.

* `Calculator.outcome_execute_cases` — **the outcome of a line is that of `help`, or there is no
  line feed in its message.**
* `Calculator.isUnbroken_of_mem_execute` — nor is there one in the trace of the line, which quotes
  it.
* `Outcome.height` — the number of lines that tell an outcome (`Outcome.lineFeeds_entry`).
-/

set_option autoImplicit false

namespace StackCalculator

/-! ## Numbers and listings -/

theorem lineFeed_not_mem_of_isPrintable {text : List Char} (h : ∀ c ∈ text, IsPrintable c) :
    '\n' ∉ text :=
  fun hmem => absurd (h '\n' hmem).1 (by decide)

theorem Double.unbroken_toString (x : Double) : Unbroken (toString x) :=
  unbroken_ofList (lineFeed_not_mem_of_isPrintable x.shown_text.isPrintable)

theorem unbroken_toString_nat (n : Nat) : Unbroken (toString n) := by
  rw [Unbroken, Nat.toString_eq_repr, Nat.toList_repr]
  exact lineFeed_not_mem_of_isPrintable fun _ hc =>
    isPrintable_of_isDigit (isDigit_of_mem_toDigits hc)

theorem lineFeed_not_mem_intercalate {separator : List Char} {texts : List (List Char)}
    (hseparator : '\n' ∉ separator) (htexts : ∀ text ∈ texts, '\n' ∉ text) :
    '\n' ∉ separator.intercalate texts := by
  induction texts with
  | nil => exact List.not_mem_nil
  | cons text texts ih =>
    obtain ⟨htext, htexts⟩ := List.forall_mem_cons.1 htexts
    cases texts with
    | nil => simpa using htext
    | cons next texts =>
      rw [List.intercalate_cons_cons]
      exact List.not_mem_append (List.not_mem_append htext hseparator) (ih htexts)

theorem Stack.unbroken_listing (s : Stack) : Unbroken s.listing := by
  rw [Unbroken, Stack.listing, toList_listing]
  have hvalues : '\n' ∉ ", ".toList.intercalate (s.values.map Double.text) := by
    refine lineFeed_not_mem_intercalate (by decide) fun text htext => ?_
    obtain ⟨x, -, rfl⟩ := List.mem_map.1 htext
    exact lineFeed_not_mem_of_isPrintable x.shown_text.isPrintable
  simpa using hvalues

/-! ## Errors -/

theorem StackError.unbroken_message (error : StackError) : Unbroken error.message := by
  cases error with
  | empty => decide
  | underflow needed available =>
    have hneeded : Unbroken "stack underflow: needed " := unbroken_ofList (by decide)
    have havailable : Unbroken ", available " := unbroken_ofList (by decide)
    exact ((hneeded.append (unbroken_toString_nat _)).append havailable).append
      (unbroken_toString_nat _)

namespace CommandError

/-- What a command error tells of, if that is not always the same: an action, or a line. -/
def subject : CommandError → String
  | .nothingTo action | .emptyStack action | .insufficientOperands action => action
  | .unrecognized input => input
  | .invalidPush | .nothingToUndo | .stack _ => ""

theorem unbroken_message {error : CommandError} (h : Unbroken error.subject) :
    Unbroken error.message := by
  cases error with
  | invalidPush =>
    have hstart : Unbroken "Not a valid push command. " := unbroken_ofList (by decide)
    have hend : Unbroken "Please Enter PUSH <xyz> where <xyz> is a valid decimal number." :=
      unbroken_ofList (by decide)
    exact hstart.append hend
  | nothingTo action =>
    have hstart : Unbroken "Stack is empty. Nothing to " := unbroken_ofList (by decide)
    have hend : Unbroken "." := unbroken_ofList (by decide)
    exact (hstart.append h).append hend
  | emptyStack action =>
    have hstart : Unbroken "Stack is empty. Cannot " := unbroken_ofList (by decide)
    have hend : Unbroken "." := unbroken_ofList (by decide)
    exact (hstart.append h).append hend
  | insufficientOperands action =>
    have hstart : Unbroken "Not enough elements in stack to " := unbroken_ofList (by decide)
    have hend : Unbroken "." := unbroken_ofList (by decide)
    exact (hstart.append h).append hend
  | nothingToUndo => decide
  | unrecognized input =>
    have hstart : Unbroken "Can not recognise the command : '" := unbroken_ofList (by decide)
    have hend : Unbroken "' . Enter 'Help' to get the list of commands." :=
      unbroken_ofList (by decide)
    exact (hstart.append h).append hend
  | stack error => exact error.unbroken_message

end CommandError

/-- A command that fails tells of an action, and of nothing that was typed. -/
theorem Calculator.unbroken_of_apply_error {c : Calculator} {command : Command}
    {error : CommandError} (h : c.apply command = .error error) : Unbroken error.message := by
  refine CommandError.unbroken_message ?_
  by_cases hundo : command = .undo
  · subst hundo
    cases hlast : c.history.last? with
    | none =>
      simp only [apply, hlast] at h
      cases h
      decide
    | some record =>
      rw [apply_undo_eq hlast] at h
      cases hrevert : record.revert c.stack with
      | error error =>
        rw [hrevert] at h
        cases h
        exact List.not_mem_nil
      | ok s =>
        rw [hrevert] at h
        cases h
  · cases (apply_eq_error_iff hundo).1 h with
    | undo => exact absurd rfl hundo
    | pop | clear | neg | inv | add | mul => decide

/-- What is told of a line that is no command may repeat it, normalised. -/
theorem unbroken_of_parse_error {line : String} {error : CommandError}
    (hline : '\n' ∉ line.toList.dropLast) (h : Command.parse line = .error error) :
    Unbroken error.message := by
  refine CommandError.unbroken_message ?_
  cases Command.parse_eq_iff.1 h with
  | invalidPush => decide
  | unrecognized => exact unbroken_ofList (Text.lineFeed_not_mem_normalize hline)

/-! ## Outcomes -/

/-- The outcome of `help`. -/
def helped : Outcome := { Outcome.done (helpText ++ "\n" ++ promptText) with severity := .info }

/-- The number of lines of the list of commands, with the prompt below it. -/
def helpLines : Nat := 14

/-- The number of lines that tell an outcome. -/
def Outcome.height (outcome : Outcome) : Nat := if outcome = helped then helpLines else 1

theorem lineFeeds_helped : lineFeeds helped.message + 1 = helpLines := by
  have hmessage : (helpText ++ "\n" ++ promptText).toList.count '\n' = 13 := by
    unfold helpText promptText
    simp only [String.toList_append]
    -- the parts are counted as lists, since their lengths as texts take long to find
    repeat rw [String.toList_ofList]
    decide +kernel
  exact congrArg (· + 1) hmessage

theorem Outcome.lineFeeds_render (outcome : Outcome) :
    lineFeeds outcome.entry.render = lineFeeds outcome.message + 1 := by
  have hbody : outcome.entry.body = Text.sanitized outcome.message := String.append_empty
  rw [Log.Entry.lineFeeds_render, hbody, Text.lineFeeds_sanitized]

/-- An outcome without line feeds in its message makes an entry without line feeds. -/
theorem Outcome.isUnbroken_entry {outcome : Outcome} (h : Unbroken outcome.message) :
    outcome.entry.IsUnbroken :=
  ⟨h, List.forall_mem_nil _⟩

theorem Outcome.lineFeeds_entry {outcome : Outcome}
    (h : outcome = helped ∨ Unbroken outcome.message) :
    lineFeeds outcome.entry.render = outcome.height := by
  rw [lineFeeds_render, height]
  split_ifs with hhelped
  · rw [hhelped, lineFeeds_helped]
  · rw [lineFeeds_eq_zero_iff.2 (h.resolve_left hhelped)]

namespace Calculator

theorem unbroken_printed (s : Stack) : Unbroken (printed s).message := by
  dsimp only [printed]
  split
  · decide
  · have hstart : Unbroken "Stack Elements : " := unbroken_ofList (by decide)
    exact hstart.append s.unbroken_listing

theorem unbroken_inverted (x : Double) : Unbroken (inverted x).message := by
  have hstart : Unbroken "Inverted " := unbroken_ofList (by decide)
  have hresult : Unbroken "; result is " := unbroken_ofList (by decide)
  have hoperand : Unbroken ("Inverted " ++ toString x) := hstart.append x.unbroken_toString
  rw [inverted]
  split
  · exact (hoperand.append hresult).append x.inv.unbroken_toString
  · exact hoperand

/-- A command that is carried out tells of numbers and of the stack, or it is `help`. -/
theorem outcome_of_apply_cases {c after : Calculator} {command : Command} {outcome : Outcome}
    (h : c.apply command = .ok (outcome, after)) :
    command = .help ∧ outcome = helped ∨ Unbroken outcome.message := by
  cases command with
  | push x =>
    cases h
    have hstart : Unbroken "Pushed " := unbroken_ofList (by decide)
    exact .inr (hstart.append x.unbroken_toString)
  | pop =>
    obtain ⟨⟨x, rest⟩, -, h⟩ := bind_eq_ok.1 h
    cases h
    have hstart : Unbroken "Popped " := unbroken_ofList (by decide)
    exact .inr (hstart.append x.unbroken_toString)
  | clear =>
    rw [apply] at h
    split at h
    · cases h
    · cases h
      have hstart : Unbroken "Cleared " := unbroken_ofList (by decide)
      have hend : Unbroken " element(s)" := unbroken_ofList (by decide)
      exact .inr ((hstart.append (unbroken_toString_nat _)).append hend)
  | add =>
    obtain ⟨⟨x, y, rest⟩, -, h⟩ := bind_eq_ok.1 h
    cases h
    have hstart : Unbroken "Added " := unbroken_ofList (by decide)
    have hand : Unbroken " and " := unbroken_ofList (by decide)
    exact .inr (((hstart.append x.unbroken_toString).append hand).append y.unbroken_toString)
  | mul =>
    obtain ⟨⟨x, y, rest⟩, -, h⟩ := bind_eq_ok.1 h
    cases h
    have hstart : Unbroken "Multiplied " := unbroken_ofList (by decide)
    have hby : Unbroken " by " := unbroken_ofList (by decide)
    exact .inr (((hstart.append x.unbroken_toString).append hby).append y.unbroken_toString)
  | neg =>
    obtain ⟨⟨x, rest⟩, -, h⟩ := bind_eq_ok.1 h
    cases h
    have hstart : Unbroken "Negated " := unbroken_ofList (by decide)
    exact .inr (hstart.append x.unbroken_toString)
  | inv =>
    obtain ⟨⟨x, rest⟩, -, h⟩ := bind_eq_ok.1 h
    cases h
    exact .inr (unbroken_inverted x)
  | undo =>
    obtain ⟨record, -, -, -, rfl⟩ := apply_undo_eq_ok_iff.1 h
    have hstart : Unbroken "Undid " := unbroken_ofList (by decide)
    have hname : Unbroken record.name := by cases record <;> exact unbroken_ofList (by decide)
    exact .inr (hstart.append hname)
  | print =>
    cases h
    exact .inr (unbroken_printed c.stack)
  | help =>
    cases h
    exact .inl ⟨rfl, rfl⟩
  | quit =>
    cases h
    exact .inr (by decide)

/-- **The outcome of a line is that of `help`, or its message has no line feed.** -/
theorem outcome_execute_cases (c : Calculator) {line : String}
    (hline : '\n' ∉ line.toList.dropLast) :
    isCommand .help line = true ∧ (c.execute line).outcome = helped ∨
      Unbroken (c.execute line).outcome.message := by
  rw [execute]
  cases hparse : Command.parse line with
  | error error => exact .inr (unbroken_of_parse_error hline hparse)
  | ok command =>
    simp only [reply]
    cases happly : c.apply command with
    | error error => exact .inr (unbroken_of_apply_error happly)
    | ok result =>
      rcases outcome_of_apply_cases happly with ⟨rfl, hhelped⟩ | hunbroken
      · exact .inl ⟨isCommand_iff.2 hparse, hhelped⟩
      · exact .inr hunbroken

theorem isUnbroken_applied (command : Command) (after : Calculator) :
    (Event.applied command after).entry.IsUnbroken where
  message := unbroken_ofList (by decide)
  fields := by
    simp only [Event.entry, List.forall_mem_cons]
    exact ⟨⟨unbroken_ofList (by decide), Text.unbroken_quoted _⟩,
      ⟨unbroken_ofList (by decide), unbroken_toString_nat _⟩,
      ⟨unbroken_ofList (by decide), unbroken_toString_nat _⟩, List.forall_mem_nil _⟩

theorem isUnbroken_rejected (line : String) {error : CommandError} (h : Unbroken error.message) :
    (Event.rejected line error).entry.IsUnbroken where
  message := unbroken_ofList (by decide)
  fields := by
    simp only [Event.entry, List.forall_mem_cons]
    exact ⟨⟨unbroken_ofList (by decide), Text.unbroken_quoted _⟩,
      ⟨unbroken_ofList (by decide), h⟩, List.forall_mem_nil _⟩

/-- What happens while a line is executed is one event, without line feeds. -/
theorem exists_events_execute (c : Calculator) {line : String}
    (hline : '\n' ∉ line.toList.dropLast) :
    ∃ event, (c.execute line).events = [event] ∧ event.entry.IsUnbroken := by
  rw [execute]
  cases hparse : Command.parse line with
  | error error =>
    exact ⟨_, rfl, isUnbroken_rejected line (unbroken_of_parse_error hline hparse)⟩
  | ok command =>
    simp only [reply]
    cases happly : c.apply command with
    | error error => exact ⟨_, rfl, isUnbroken_rejected line (unbroken_of_apply_error happly)⟩
    | ok result => exact ⟨_, rfl, isUnbroken_applied command result.2⟩

end Calculator

end StackCalculator
