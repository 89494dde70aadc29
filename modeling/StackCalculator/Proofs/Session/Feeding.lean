import StackCalculator.Session
import StackCalculator.Proofs.Calculator.Steps
import StackCalculator.Proofs.Text.Words

/-!
# One line of a session

`Session.feed` trims and lower-cases a line and gives what is left to the calculator, which does the
same again.  The second time nothing changes, so the calculator might as well have been given the
line as it was typed: `feed_of_blank` and `feed_of_not_blank` say what a line comes to without
mentioning the normalised one, except in the trace of what was rejected.

What is left to do after a line is the effect of its outcome.  `effect_execute` reads it off the
command: only `print` has something to write, and only `quit` ends the session.

`Reliable` is a way to use a destination so that nothing fails on it.  All that is left to do after
a line can be done then, and writes a listing at most: `Reliable.settle`.

Together these give `Session.feed_agrees_with_execute`: **a line does in a session what it does to
the bare calculator.**
-/

set_option autoImplicit false

namespace StackCalculator

/-! ## The line as it was typed -/

/-- A line is fed as it is without the blanks around it. -/
theorem Session.feed_congr {δ : Type} [Destination δ] (s : Session δ) {line line' : String}
    (h : Text.trim line.toList = Text.trim line'.toList) : s.feed line = s.feed line' := by
  rw [feed, feed, Text.normalize, Text.normalize, h]

/-- The event as it is told of another line, if it tells of a line. -/
def Event.withLine (line : String) : Event → Event
  | .rejected _ error => .rejected line error
  | .message level text => .message level text
  | .applied command after => .applied command after

theorem parse_normalize (line : String) :
    Command.parse (String.ofList (Text.normalize line.toList)) = Command.parse line := by
  rw [Command.parse, Command.parse, String.toList_ofList, Text.normalize_normalize]

namespace Calculator

/-- What a line comes to depends on its command only, or on why it has none. -/
theorem execute_congr (c : Calculator) {line line' : String}
    (h : Command.parse line = Command.parse line') :
    (c.execute line).outcome = (c.execute line').outcome ∧
      (c.execute line).after = (c.execute line').after := by
  rw [execute, execute, h]
  cases Command.parse line' with
  | error error => exact ⟨rfl, rfl⟩
  | ok command =>
    simp only [reply]
    cases c.apply command with
    | error error => exact ⟨rfl, rfl⟩
    | ok result => exact ⟨rfl, rfl⟩

/-- Lines with the same command, or the same reason for having none, leave the same trace, except
for the line itself. -/
theorem events_execute_congr (c : Calculator) {line line' : String}
    (h : Command.parse line = Command.parse line') :
    (c.execute line').events = (c.execute line).events.map (Event.withLine line') := by
  rw [execute, execute, h]
  cases Command.parse line' with
  | error error => rfl
  | ok command =>
    simp only [reply]
    cases c.apply command with
    | error error => rfl
    | ok result => rfl

/-- What happens while a line is executed is no message. -/
theorem level_of_mem_execute {c : Calculator} {line : String} {event : Event}
    (h : event ∈ (c.execute line).events) : event.level = .debug := by
  simp only [execute, reply] at h
  repeat' split at h
  all_goals
    rw [List.mem_singleton] at h
    rw [h]
    rfl

/-! ## Effects -/

/-- A command that fails leaves nothing to do; `print` and `quit` never fail. -/
theorem effect_of_apply_error {c : Calculator} {command : Command} {error : CommandError}
    (h : c.apply command = .error error) : c.effect command = .none := by
  cases command with
  | print | quit => cases h
  | push x | pop | clear | add | mul | neg | inv | undo | help => rfl

theorem effect_execute (c : Calculator) (line : String) :
    (c.execute line).outcome.effect =
      match Command.parse line with
      | .ok command => c.effect command
      | .error _ => .none := by
  rw [execute]
  cases Command.parse line with
  | error error => rfl
  | ok command =>
    simp only [reply]
    cases happly : c.apply command with
    | error error => exact (effect_of_apply_error happly).symm
    | ok result => exact (outcome_of_apply happly).2

end Calculator

/-! ## Feeding a line -/

namespace Session

variable {δ : Type} [Destination δ]

theorem feed_of_blank (s : Session δ) {line : String} (h : Text.trim line.toList = []) :
    s.feed line = ⟨.ok .continue, [], s⟩ := by
  simp [feed, Text.normalize_eq_nil_iff.2 h]

theorem feed_of_not_blank (s : Session δ) {line : String} (h : Text.trim line.toList ≠ []) :
    s.feed line =
      settle { s with calculator := (s.calculator.execute line).after }
        (s.calculator.execute line).outcome.effect
        ((s.calculator.execute (String.ofList (Text.normalize line.toList))).events ++
          [.report (s.calculator.execute line).outcome.severity
            (s.calculator.execute line).outcome.message]) := by
  obtain ⟨houtcome, hafter⟩ := s.calculator.execute_congr (parse_normalize line)
  have hne : (Text.normalize line.toList).isEmpty = false := by
    rw [List.isEmpty_eq_false_iff]
    exact mt Text.normalize_eq_nil_iff.1 h
  simp [feed, hne, houtcome, hafter]

end Session

/-! ## Destinations on which nothing fails -/

/-- A way to use a destination so that writing and flushing never fail, and to tell what has been
written to it. -/
structure Reliable (δ : Type) [Destination δ] where
  /-- The states in which nothing can fail. -/
  Sound : δ → Prop
  /-- The bytes written so far. -/
  contents : δ → List UInt8
  /-- Writing succeeds and adds the bytes to the others. -/
  write : ∀ out bytes, Sound out → ∃ after, Destination.write out bytes = (.ok (), after) ∧
    Sound after ∧ contents after = contents out ++ bytes
  /-- Flushing succeeds and adds nothing. -/
  flush : ∀ out, Sound out → ∃ after, Destination.flush out = (.ok (), after) ∧
    Sound after ∧ contents after = contents out

/-- A buffer without a limit and with a flush that works. -/
def Buffer.reliable : Reliable Buffer where
  Sound b := b.room = none ∧ b.flushFails = false
  contents := Buffer.contents
  write := by
    rintro b bytes ⟨hroom, hflush⟩
    refine ⟨b.append bytes, ?_, ⟨hroom, hflush⟩, b.contents_append bytes⟩
    simp [Destination.write, Buffer.write, hroom]
  flush := by
    rintro b ⟨hroom, hflush⟩
    refine ⟨b, ?_, ⟨hroom, hflush⟩, rfl⟩
    simp [Destination.flush, Buffer.flush, hflush]

/-- The bytes of a listing as it is written. -/
def listingBytes (listing : String) : List UInt8 := listing.toUTF8.toList ++ [10]

/-- The bytes that are written for an effect. -/
def Effect.bytes : Effect → List UInt8
  | .print listing => listingBytes listing
  | .none | .quit => []

namespace Reliable

variable {δ : Type} [Destination δ] (reliable : Reliable δ)

theorem writeLine {out : δ} (hout : reliable.Sound out) (listing : String) :
    ∃ after, Destination.writeLine out listing = (.ok (), after) ∧ reliable.Sound after ∧
      reliable.contents after = reliable.contents out ++ listingBytes listing := by
  obtain ⟨out₁, hwrite₁, hout₁, hcontents₁⟩ := reliable.write out listing.toUTF8.toList hout
  obtain ⟨out₂, hwrite₂, hout₂, hcontents₂⟩ := reliable.write out₁ [10] hout₁
  obtain ⟨out₃, hflush, hout₃, hcontents₃⟩ := reliable.flush out₂ hout₂
  refine ⟨out₃, ?_, hout₃, ?_⟩
  · rw [Destination.writeLine, hwrite₁]
    simp only [hwrite₂, hflush]
  · rw [hcontents₃, hcontents₂, hcontents₁, listingBytes, List.append_assoc]

/-- Nothing fails, so all that can happen is that the listing is written. -/
theorem settle {s : Session δ} (hs : reliable.Sound s.out) (effect : Effect)
    (events : List Event) : ∃ out,
      s.settle effect events =
        ⟨.ok (if effect = .quit then .quit else .continue), events, { s with out }⟩ ∧
      reliable.Sound out ∧ reliable.contents out = reliable.contents s.out ++ effect.bytes := by
  cases effect with
  | none => exact ⟨s.out, rfl, hs, (List.append_nil _).symm⟩
  | quit => exact ⟨s.out, rfl, hs, (List.append_nil _).symm⟩
  | print listing =>
    obtain ⟨out, hwrite, hout, hcontents⟩ := reliable.writeLine hs listing
    refine ⟨out, ?_, hout, hcontents⟩
    simp [Session.settle, hwrite]

end Reliable

/-! ## The session and the bare calculator -/

namespace Session

variable {δ : Type} [Destination δ]

/-- **A line does in a session what it does to the bare calculator**, although the session
normalises it before the calculator does so again: the same state is left behind, the same message
is reported, the echo of an unknown command included, and the same effect is carried out.  A line of
blanks does nothing at all, and it makes no difference to whether there are only blanks, nor to
anything else, that a text has been normalised before. -/
theorem feed_agrees_with_execute (reliable : Reliable δ) (s : Session δ)
    (hs : reliable.Sound s.out) (line : String) :
    let normalized := Text.normalize line.toList
    let reply := s.calculator.execute line
    let call := s.feed line
    (Text.trim line.toList ≠ [] →
      call.session.calculator = reply.after ∧
      call.events = reply.events.map (Event.withLine (String.ofList normalized)) ++
        [.report reply.outcome.severity reply.outcome.message] ∧
      call.result = .ok (if reply.outcome.effect = .quit then .quit else .continue) ∧
      reliable.contents call.session.out =
        reliable.contents s.out ++ reply.outcome.effect.bytes) ∧
    (Text.trim line.toList = [] → call = ⟨.ok .continue, [], s⟩) ∧
    Text.normalize normalized = normalized ∧
    (Text.trim normalized = [] ↔ Text.trim line.toList = []) := by
  refine ⟨fun h => ?_, s.feed_of_blank, Text.normalize_normalize _, ?_⟩
  · obtain ⟨out, hsettle, -, hcontents⟩ := reliable.settle
      (s := { s with calculator := (s.calculator.execute line).after }) hs
      (s.calculator.execute line).outcome.effect _
    have htrace := s.calculator.events_execute_congr (parse_normalize line).symm
    rw [s.feed_of_not_blank h, hsettle, htrace]
    exact ⟨rfl, rfl, rfl, hcontents⟩
  · rw [← Text.normalize_eq_nil_iff, Text.normalize_normalize, Text.normalize_eq_nil_iff]

/-- The second of these two letters is small at the end of a word, and the blank before the first
one is not of ASCII. -/
theorem feed_echoes_final_sigma :
    Buffer.reliable.Sound Buffer.unlimited ∧ Text.trim "\u00a0ΑΣ\n".toList ≠ [] ∧
      ((fresh Buffer.unlimited).feed "\u00a0ΑΣ\n").events =
        [.rejected "ας" (.unrecognized "ας"),
          .message .info (CommandError.unrecognized "ας").message] :=
  ⟨⟨rfl, rfl⟩, by decide,
    ((feed_agrees_with_execute Buffer.reliable (fresh .unlimited) ⟨rfl, rfl⟩ "\u00a0ΑΣ\n").1
      (by decide)).2.1.trans (by decide +kernel)⟩

end Session

end StackCalculator
