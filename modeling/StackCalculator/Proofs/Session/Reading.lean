import StackCalculator.Program
import StackCalculator.Proofs.Session.Feeding
import StackCalculator.Proofs.Text.LineFeeds

/-!
# A session reads a text

A session gets bytes.  It cuts them into lines, decodes each line, and stops in the middle if it is
told to.  This file compares it with a reader that has the whole text before it begins:

* `Text.script` — the lines of the text that are not blank;
* `executed` — those of them up to the first that asks to quit;
* `Calculator.outcomes`, `Calculator.listings` — what comes of executing lines one after the other,
  and what they write.

`Session.run_reads_text` — **a session is the calculator run over the decoded text**, whatever the
bytes are, as long as writing does not fail.  The relation that carries this through the lines of a
session is `Session.Executes`.  It holds of a line that is executed (`executes_singleton`) and of
the calls that follow each other (`Executes.append`), and `feedLines_executes` is the induction.

The last line needs no care, though a stream may or may not end it with a line feed: the piece after
a final line feed is empty, so it is read in the one case and blank in the other.
-/

set_option autoImplicit false

namespace StackCalculator

/-! ## A reader that has the whole text -/

/-- Whether something stands in the line. -/
def isFilled (line : String) : Bool := !(Text.trim line.toList).isEmpty

/-- The lines of a text in which something stands. -/
def Text.script (text : List Char) : List String :=
  ((text.splitOn '\n').map String.ofList).filter isFilled

/-- Whether the line is this command. -/
def isCommand (command : Command) (line : String) : Bool :=
  (Command.parse line).toOption = some command

/-- The lines up to and including the first that asks to quit. -/
def executed : List String → List String
  | [] => []
  | line :: lines => line :: if isCommand .quit line then [] else executed lines

namespace Calculator

/-- The outcomes of lines that are executed one after the other. -/
def outcomes (c : Calculator) : List String → List Outcome
  | [] => []
  | line :: lines => (c.execute line).outcome :: (c.execute line).after.outcomes lines

/-- What lines write that are executed one after the other: each `print` lists the stack as it is at
that moment. -/
def listings (c : Calculator) : List String → List UInt8
  | [] => []
  | line :: lines =>
    (if isCommand .print line then listingBytes c.stack.listing else []) ++
      (c.execute line).after.listings lines

end Calculator

/-- The entry that an outcome makes in a log. -/
def Outcome.entry (outcome : Outcome) : Log.Entry :=
  ⟨.ofSeverity outcome.severity, outcome.message, []⟩

/-- The entries that outcomes make in a log of the level `info`: confirmations are left out. -/
def Outcome.entries (outcomes : List Outcome) : List Log.Entry :=
  (outcomes.filter fun outcome => outcome.severity ≠ .debug).map Outcome.entry

/-! ## Lines -/

theorem isFilled_iff {line : String} : isFilled line = true ↔ Text.trim line.toList ≠ [] := by
  simp [isFilled]

theorem isCommand_iff {command : Command} {line : String} :
    isCommand command line = true ↔ Command.parse line = .ok command := by
  rw [isCommand, decide_eq_true_iff]
  cases Command.parse line <;> simp [Except.toOption]

/-- A line is one command at most. -/
theorem isCommand_of_ne {command other : Command} {line : String}
    (h : isCommand command line = true) (hne : command ≠ other) : isCommand other line = false := by
  rw [Bool.eq_false_iff, Ne, isCommand_iff, isCommand_iff.1 h]
  exact fun heq => hne (Except.ok.inj heq)

theorem any_executed (lines : List String) :
    (executed lines).any (isCommand .quit) = lines.any (isCommand .quit) := by
  induction lines with
  | nil => rfl
  | cons line lines ih =>
    rw [executed, List.any_cons, List.any_cons]
    cases hquit : isCommand .quit line with
    | true => rfl
    | false => simpa using ih

/-- The piece after a final line feed has nothing in it, so it makes no difference whether it is
read. -/
theorem filter_lines (bytes : List UInt8) :
    ((Source.lines ⟨bytes, none⟩).map Session.decodeLine).filter isFilled =
      Text.script (Text.Utf8.decodeLossy bytes) := by
  have hpieces : ((bytes.splitOn 10).map Session.decodeLine).filter isFilled =
      Text.script (Text.Utf8.decodeLossy bytes) := by
    rw [Text.script, Text.Utf8.decodeLossy_splitOn, List.map_map]
    rfl
  rw [← hpieces, Source.lines, Source.pieces]
  split
  · rename_i hlast
    have hlast : (bytes.splitOn 10).getLast? = some [] := by simpa using hlast
    conv_rhs => rw [← List.dropLast_append_getLast? [] hlast]
    rw [List.map_append, List.filter_append]
    have hempty : ([[]].map Session.decodeLine).filter isFilled = [] := rfl
    rw [hempty, List.append_nil]
  · rfl

theorem Calculator.outcomes_append (c : Calculator) (lines lines' : List String) :
    c.outcomes (lines ++ lines') =
      c.outcomes lines ++ (c.run (lines.map .line)).outcomes lines' := by
  induction lines generalizing c with
  | nil => rfl
  | cons line lines ih => rw [List.cons_append, outcomes, ih, outcomes]; rfl

theorem Calculator.listings_append (c : Calculator) (lines lines' : List String) :
    c.listings (lines ++ lines') =
      c.listings lines ++ (c.run (lines.map .line)).listings lines' := by
  induction lines generalizing c with
  | nil => rfl
  | cons line lines ih => rw [List.cons_append, listings, ih, listings, List.append_assoc]; rfl

/-! ## Entries of the log -/

theorem Outcome.entries_append (outcomes outcomes' : List Outcome) :
    Outcome.entries (outcomes ++ outcomes') =
      Outcome.entries outcomes ++ Outcome.entries outcomes' := by
  simp [Outcome.entries]

theorem entries_report (outcome : Outcome) :
    Log.entries .info [.report outcome.severity outcome.message] = Outcome.entries [outcome] := by
  obtain ⟨applied, severity, message, effect⟩ := outcome
  cases severity <;> rfl

theorem entries_execute (c : Calculator) (line : String) :
    Log.entries .info (c.execute line).events = [] := by
  rw [Log.entries, List.map_eq_nil_iff, List.filter_eq_nil_iff]
  intro event hevent
  rw [Calculator.level_of_mem_execute hevent]
  decide

/-- The line that is executed may be another than the one reported, such as its normalised form. -/
theorem entries_reported (c : Calculator) (line line' : String) :
    Log.entries .info ((c.execute line').events ++
      [.report (c.execute line).outcome.severity (c.execute line).outcome.message]) =
      Outcome.entries [(c.execute line).outcome] := by
  rw [Log.entries_append, entries_execute, entries_report, List.nil_append]

/-! ## Effects -/

/-- All that a line can leave to do is known from whether it is `print` or `quit`. -/
theorem effect_execute_eq (c : Calculator) (line : String) :
    (c.execute line).outcome.effect =
      if isCommand .print line then .print c.stack.listing
      else if isCommand .quit line then .quit else .none := by
  simp only [c.effect_execute, isCommand_iff]
  cases Command.parse line with
  | error error => simp
  | ok command => cases command <;> simp [Calculator.effect]

theorem effect_eq_quit_iff {c : Calculator} {line : String} :
    (c.execute line).outcome.effect = .quit ↔ isCommand .quit line = true := by
  rw [effect_execute_eq]
  cases hprint : isCommand .print line with
  | true =>
    have hquit : isCommand .quit line = false := isCommand_of_ne hprint nofun
    simp [hquit]
  | false => cases isCommand .quit line <;> simp

theorem effect_bytes (c : Calculator) (line : String) :
    (c.execute line).outcome.effect.bytes =
      if isCommand .print line then listingBytes c.stack.listing else [] := by
  rw [effect_execute_eq]
  split_ifs <;> rfl

/-! ## Calls -/

namespace Session

variable {δ : Type} [Destination δ]

/-- The call comes to what executing the lines comes to. -/
structure Executes (reliable : Reliable δ) (s : Session δ) (lines : List String)
    (call : Call δ Flow) : Prop where
  /-- The call ends the session if one of the lines does, and it does not fail. -/
  result : call.result = .ok (if lines.any (isCommand .quit) then .quit else .continue)
  /-- The calculator has executed the lines. -/
  calculator : call.session.calculator = s.calculator.run (lines.map .line)
  /-- The listings have been written. -/
  contents : reliable.contents call.session.out =
    reliable.contents s.out ++ s.calculator.listings lines
  /-- The outcomes are in the log. -/
  entries : Log.entries .info call.events = Outcome.entries (s.calculator.outcomes lines)
  /-- Still nothing can fail. -/
  sound : reliable.Sound call.session.out

variable {reliable : Reliable δ}

theorem executes_nil {s : Session δ} (hs : reliable.Sound s.out) :
    Executes reliable s [] ⟨.ok .continue, [], s⟩ :=
  ⟨rfl, rfl, (List.append_nil _).symm, rfl, hs⟩

/-- A line in which something stands is executed. -/
theorem executes_singleton {s : Session δ} (hs : reliable.Sound s.out) {line : String}
    (h : isFilled line = true) : Executes reliable s [line] (s.feed line) := by
  rw [s.feed_of_not_blank (isFilled_iff.1 h)]
  obtain ⟨out, hsettle, hout, hcontents⟩ := reliable.settle
    (s := { s with calculator := (s.calculator.execute line).after }) hs
    (s.calculator.execute line).outcome.effect _
  rw [hsettle]
  refine ⟨?_, rfl, ?_, entries_reported _ _ _, hout⟩
  · simp only [effect_eq_quit_iff, List.any_cons, List.any_nil, Bool.or_false]
  · rw [hcontents, effect_bytes, Calculator.listings, Calculator.listings, List.append_nil]

/-- Lines of which none ends the session, and then the lines of another call. -/
theorem Executes.append {s : Session δ} {lines lines' : List String} {call call' : Call δ Flow}
    (h : Executes reliable s lines call) (h' : Executes reliable call.session lines' call')
    (hquit : lines.any (isCommand .quit) = false) :
    Executes reliable s (lines ++ lines') (call'.precededBy call.events) := by
  refine ⟨?_, ?_, ?_, ?_, h'.sound⟩
  · rw [List.any_append, hquit, Bool.false_or]
    exact h'.result
  · rw [List.map_append, Calculator.run_append, ← h.calculator]
    exact h'.calculator
  · rw [Calculator.listings_append, ← List.append_assoc, ← h.contents, ← h.calculator]
    exact h'.contents
  · rw [Call.precededBy, Log.entries_append, h.entries, h'.entries, h.calculator,
      Calculator.outcomes_append, Outcome.entries_append]

theorem feedLines_executes {s : Session δ} (hs : reliable.Sound s.out) (lines : List String) :
    Executes reliable s (executed (lines.filter isFilled)) (s.feedLines lines) := by
  induction lines generalizing s with
  | nil => exact executes_nil hs
  | cons line lines ih =>
    rw [feedLines]
    cases hfilled : isFilled line with
    | false =>
      have hblank : Text.trim line.toList = [] := by simpa [isFilled] using hfilled
      rw [s.feed_of_blank hblank, List.filter_cons_of_neg (by simp [hfilled])]
      exact ih hs
    | true =>
      have hline := executes_singleton hs hfilled
      rw [List.filter_cons_of_pos hfilled, executed]
      cases hquit : isCommand .quit line with
      | true =>
        have hresult : (s.feed line).result = .ok .quit := by simp [hline.result, hquit]
        simp only [hresult, if_true]
        exact hline
      | false =>
        have hresult : (s.feed line).result = .ok .continue := by simp [hline.result, hquit]
        simp only [hresult, Bool.false_eq_true, if_false]
        exact hline.append (ih hline.sound) (by simp [hquit])

/-- The whole of a session: its lines, and then the farewell. -/
theorem exists_run_eq (reliable : Reliable δ) {out : δ} (hout : reliable.Sound out)
    (bytes : List UInt8) :
    ∃ call, Executes reliable (fresh out)
        (executed (Text.script (Text.Utf8.decodeLossy bytes))) call ∧
      (fresh out).run ⟨bytes, none⟩ =
        ⟨.ok (if (Text.script (Text.Utf8.decodeLossy bytes)).any (isCommand .quit) then .quit
          else .endOfInput), call.events ++ [farewell], call.session⟩ := by
  have hcall := feedLines_executes (s := fresh out) hout
    ((Source.lines ⟨bytes, none⟩).map decodeLine)
  rw [filter_lines] at hcall
  refine ⟨_, hcall, ?_⟩
  have hresult := hcall.result
  rw [any_executed] at hresult
  rw [run, readLines, hresult]
  cases (Text.script (Text.Utf8.decodeLossy bytes)).any (isCommand .quit) with
  | true => rfl
  | false => rfl

/-- **A session is the calculator run over the decoded text**, whatever the bytes are.  It executes
the lines in which something stands up to the first that asks to quit, writes the listings these ask
for and nothing else, and has their outcomes in the log, followed by one farewell.  In particular
the program always ends well. -/
theorem run_reads_text (reliable : Reliable δ) (out : δ) (hout : reliable.Sound out)
    (bytes : List UInt8) :
    let script := Text.script (Text.Utf8.decodeLossy bytes)
    let call := (Session.fresh out).run ⟨bytes, none⟩
    call.result = .ok (if script.any (isCommand .quit) then .quit else .endOfInput) ∧
    call.session.calculator = Calculator.fresh.run ((executed script).map .line) ∧
    reliable.contents call.session.out =
      reliable.contents out ++ Calculator.fresh.listings (executed script) ∧
    Log.entries .info call.events =
      Outcome.entries (Calculator.fresh.outcomes (executed script)) ++ [farewell.entry] ∧
    (Transcript.ofRun [] bytes).code = 0 ∧
    (Transcript.ofRun [] bytes).output = Calculator.fresh.listings (executed script) := by
  obtain ⟨call, hcall, hrun⟩ := exists_run_eq reliable hout bytes
  have hunlimited : Buffer.reliable.Sound .unlimited := ⟨rfl, rfl⟩
  obtain ⟨call', hcall', hrun'⟩ := exists_run_eq Buffer.reliable hunlimited bytes
  have htranscript : Transcript.ofRun [] bytes = Transcript.ofSession bytes := rfl
  rw [htranscript, Transcript.ofSession, hrun, hrun']
  refine ⟨rfl, hcall.calculator, hcall.contents, ?_, rfl, hcall'.contents⟩
  rw [Log.entries_append, hcall.entries]
  rfl

/-- The second line of these three is no text. -/
theorem run_quits_after_broken_line :
    Buffer.reliable.Sound Buffer.unlimited ∧
      ((Session.fresh Buffer.unlimited).run
        ⟨[0x32, 0x0A, 0xC2, 0x0A, 0x51, 0x55, 0x49, 0x54], none⟩).result = .ok .quit :=
  ⟨⟨rfl, rfl⟩, (run_reads_text Buffer.reliable .unlimited ⟨rfl, rfl⟩ _).1⟩

end Session

end StackCalculator
