import StackCalculator.Proofs.LineEditor.Lines

/-!
# A terminal and a stream

At a terminal a line may be called up again instead of being typed, typing may be interrupted, and
the end of the input may be typed although more follows.  This file reads off what was entered
before any of it is executed, and compares with a session that gets the same as a text.

* `LineEditor.entered` — the lines that the reads come to, with the interrupts between them.  A
  recall comes to the latest line in which something stands (`recalled`), whether it was typed or
  recalled itself, and whatever came of it.
* `LineEditor.runReads_recalled` — what the editor remembers is always the line that `recalled`
  finds among those before.  So its memory can be left out (`runEntered`), on any destination.
* `LineEditor.runTerminal_agrees_with_run` — **a session at a terminal is the session over the text
  of what was entered**, with a hint at each interrupt it came to.

Reads do more than lines in one respect only, which is that an interrupt leaves its hint among the
reports.  `reportsWithHints` says where.
-/

set_option autoImplicit false

namespace StackCalculator

namespace LineEditor

/-! ## What was entered -/

/-- The line that a recall calls up after these lines, the last of them first: the latest in which
something stands, and an empty one if there is none. -/
def recalled (earlier : List String) : String := (earlier.find? isFilled).getD ""

/-- What the reads up to the first end of the input come to, each a line, or nothing where typing
was interrupted.  `earlier` are the lines before, the last of them first. -/
def enteredAfter (earlier : List String) : List Read → List (Option String)
  | [] => []
  | .endOfInput :: _ => []
  | .interrupt :: reads => none :: enteredAfter earlier reads
  | .recall :: reads => some (recalled earlier) :: enteredAfter (recalled earlier :: earlier) reads
  | .submit line :: reads => some line :: enteredAfter (line :: earlier) reads

/-- What reads come to if there were no lines before. -/
def entered (reads : List Read) : List (Option String) := enteredAfter [] reads

/-- The lines that were entered, as a text. -/
def enteredText (reads : List Read) : String :=
  String.join ((entered reads).reduceOption.map (· ++ "\n"))

/-- The part of what was entered that a session comes to: all up to the first line that quits. -/
def handled : List (Option String) → List (Option String)
  | [] => []
  | none :: entries => none :: handled entries
  | some line :: entries => some line :: if isCommand .quit line then [] else handled entries

theorem reduceOption_handled (entries : List (Option String)) :
    (handled entries).reduceOption = executed entries.reduceOption := by
  induction entries with
  | nil => rfl
  | cons entry entries ih =>
    cases entry with
    | none => exact ih
    | some line =>
      rw [handled, List.reduceOption_cons_of_some, List.reduceOption_cons_of_some, executed, ← ih]
      cases isCommand .quit line <;> rfl

theorem recalled_eq_or_mem (earlier : List String) :
    recalled earlier = "" ∨ recalled earlier ∈ earlier := by
  rw [recalled]
  cases hfind : earlier.find? isFilled with
  | none => exact .inl rfl
  | some line => exact .inr (List.mem_of_find?_eq_some hfind)

/-- A property of the lines that were typed, now or before, is one of those that were entered, if
the empty line has it too. -/
theorem forall_enteredAfter {P : String → Prop} {earlier : List String} {reads : List Read}
    (hempty : P "") (hearlier : ∀ line ∈ earlier, P line)
    (hreads : ∀ line, .submit line ∈ reads → P line) :
    ∀ line, some line ∈ enteredAfter earlier reads → P line := by
  intro line h
  have htail : ∀ {first : Read} {reads : List Read},
      (∀ line, .submit line ∈ first :: reads → P line) → ∀ line, .submit line ∈ reads → P line :=
    fun hreads line hline => hreads line (List.mem_cons_of_mem _ hline)
  fun_induction enteredAfter earlier reads with
  | case1 | case2 => exact absurd h List.not_mem_nil
  -- an interrupt
  | case3 earlier reads ih =>
    exact ih hearlier (htail hreads) ((List.mem_cons.1 h).resolve_left nofun)
  -- a recall
  | case4 earlier reads ih =>
    have hrecalled : P (recalled earlier) := by
      rcases recalled_eq_or_mem earlier with hnone | hmem
      · rw [hnone]
        exact hempty
      · exact hearlier _ hmem
    rcases List.mem_cons.1 h with heq | h
    · exact Option.some.inj heq ▸ hrecalled
    · exact ih (List.forall_mem_cons.2 ⟨hrecalled, hearlier⟩) (htail hreads) h
  -- a line that is typed
  | case5 earlier first reads ih =>
    have hfirst : P first := hreads first List.mem_cons_self
    rcases List.mem_cons.1 h with heq | h
    · exact Option.some.inj heq ▸ hfirst
    · exact ih (List.forall_mem_cons.2 ⟨hfirst, hearlier⟩) (htail hreads) h

/-- More reads come to nothing after the end of the input, and add to what was entered before it. -/
theorem exists_enteredAfter_append (earlier : List String) (reads more : List Read) :
    ∃ entries, enteredAfter earlier (reads ++ more) = enteredAfter earlier reads ++ entries ∧
      (.endOfInput ∈ reads → entries = []) := by
  fun_induction enteredAfter earlier reads with
  | case1 earlier => exact ⟨enteredAfter earlier more, rfl, nofun⟩
  | case2 earlier reads => exact ⟨[], rfl, fun _ => rfl⟩
  | case3 earlier reads ih | case4 earlier reads ih | case5 earlier line reads ih =>
    obtain ⟨entries, happend, hend⟩ := ih
    refine ⟨entries, ?_, fun h => hend ((List.mem_cons.1 h).resolve_left nofun)⟩
    rw [List.cons_append, enteredAfter, happend, List.cons_append]

/-! ## The memory of the editor -/

theorem recalled_cons (line : String) (earlier : List String) :
    recalled (line :: earlier) = remember (recalled earlier) line := by
  rw [recalled, List.find?_cons, isFilled, remember]
  cases (Text.trim line.toList).isEmpty with
  | true => rfl
  | false => rfl

/-- A recalled line is remembered as it was. -/
theorem recalled_recalled (earlier : List String) :
    recalled (recalled earlier :: earlier) = recalled earlier := by
  rw [recalled_cons, remember, ite_self]

variable {δ : Type} [Destination δ]

/-- A session over what was entered. -/
def runEntered (s : Session δ) : List (Option String) → Call δ Ending
  | [] => ended s .endOfInput
  | none :: entries => (runEntered s entries).precededBy [interruptHint]
  | some line :: entries => feedThen s line fun s => runEntered s entries

/-- What the editor remembers can be told from the lines before, so a session over what was entered
needs no memory. -/
theorem runReads_recalled (s : Session δ) (earlier : List String) (reads : List Read) :
    runReads s (recalled earlier) reads = runEntered s (enteredAfter earlier reads) := by
  fun_induction enteredAfter earlier reads generalizing s with
  | case1 | case2 => rfl
  | case3 earlier reads ih => rw [runReads, ih, runEntered]
  -- the editor keeps its memory at a recall, the list of lines grows all the same
  | case4 earlier reads ih =>
    rw [recalled_recalled] at ih
    rw [runReads, runEntered]
    simp only [ih]
  | case5 earlier line reads ih =>
    rw [recalled_cons] at ih
    rw [runReads, runEntered]
    simp only [ih]

theorem runTerminal_eq (s : Session δ) (reads : List Read) :
    runTerminal s reads = runEntered s (entered reads) :=
  runReads_recalled s [] reads

/-- Nothing is looked at after a line that quits. -/
theorem runEntered_append (s : Session δ) {entries : List (Option String)} {line : String}
    (hline : some line ∈ entries) (hquit : isCommand .quit line = true)
    (more : List (Option String)) :
    runEntered s (entries ++ more) = runEntered s entries := by
  induction entries generalizing s with
  | nil => exact absurd hline List.not_mem_nil
  | cons entry entries ih =>
    rw [List.cons_append]
    cases entry with
    | none =>
      have hrest : some line ∈ entries := (List.mem_cons.1 hline).resolve_left nofun
      rw [runEntered, runEntered, ih s hrest]
    | some first =>
      rw [runEntered, runEntered]
      refine feedThen_congr fun hfirst => ih _ (List.mem_of_ne_of_mem ?_ hline)
      rintro ⟨rfl⟩
      exact Bool.false_ne_true (hfirst.symm.trans hquit)

/-! ## Reports and hints -/

/-- What is reported over what was entered, whatever comes of each line. -/
def reportsWithHints (s : Session δ) : List (Option String) → List Event
  | [] => []
  | none :: entries => interruptHint :: reportsWithHints s entries
  | some line :: entries => (s.feed line).events ++ reportsWithHints (s.feed line).session entries

/-- No line reports a hint. -/
theorem interruptHint_not_mem_events_feed (s : Session δ) (line : String) :
    interruptHint ∉ (s.feed line).events :=
  s.info_not_mem_events_feed (by decide) line

/-- Without the hints there are the reports of the lines, … -/
theorem filter_reportsWithHints (s : Session δ) (entries : List (Option String)) :
    (reportsWithHints s entries).filter (· ≠ interruptHint) = s.reports entries.reduceOption := by
  induction entries generalizing s with
  | nil => rfl
  | cons entry entries ih =>
    cases entry with
    | none => simpa [reportsWithHints] using ih s
    | some line =>
      have hline : (s.feed line).events.filter (· ≠ interruptHint) = (s.feed line).events := by
        rw [List.filter_eq_self]
        intro event hevent
        exact decide_eq_true fun heq => interruptHint_not_mem_events_feed s line (heq ▸ hevent)
      rw [reportsWithHints, List.filter_append, hline, ih]
      rfl

/-- … and there are as many hints as interrupts. -/
theorem count_reportsWithHints (s : Session δ) (entries : List (Option String)) :
    (reportsWithHints s entries).count interruptHint = entries.count none := by
  induction entries generalizing s with
  | nil => rfl
  | cons entry entries ih =>
    cases entry with
    | none => rw [reportsWithHints, List.count_cons_self, List.count_cons_self, ih]
    | some line =>
      rw [reportsWithHints, List.count_append, ih,
        List.count_eq_zero.2 (interruptHint_not_mem_events_feed s line),
        List.count_cons_of_ne (by exact nofun), Nat.zero_add]

/-! ## The session -/

variable {reliable : Reliable δ} {s : Session δ}

theorem runEntered_eq (hs : reliable.Sound s.out) (entries : List (Option String)) :
    runEntered s entries =
      { (s.feedLines entries.reduceOption).concluded with
        events := reportsWithHints s (handled entries) ++ [farewell] } := by
  induction entries generalizing s with
  | nil => rfl
  | cons entry entries ih =>
    cases entry with
    | none =>
      rw [runEntered, ih hs]
      rfl
    | some line =>
      have hstops := Reliable.stopsOn_eq hs line
      rw [runEntered, handled, List.reduceOption_cons_of_some]
      cases hquit : isCommand .quit line with
      | true =>
        rw [feedThen_of_quit hquit, Session.feedLines_cons_of_stopsOn (hstops.trans hquit),
          Call.concluded, Session.result_feed_eq_quit_iff.2 hquit, if_pos rfl, reportsWithHints,
          reportsWithHints, List.append_nil]
        rfl
      | false =>
        rw [feedThen_of_not_quit hs hquit, ih (Reliable.sound_feed hs line),
          Session.feedLines_cons_of_not_stopsOn (hstops.trans hquit), Call.concluded_precededBy,
          reportsWithHints]
        simp [Call.precededBy]

/-- The stream comes to the lines that were entered. -/
theorem run_enteredText (s : Session δ) {reads : List Read}
    (hreads : ∀ line, .submit line ∈ reads → '\n' ∉ line.toList) :
    s.run ⟨(enteredText reads).toUTF8.toList, none⟩ =
      (s.feedLines (entered reads).reduceOption).concluded := by
  refine s.run_lines fun line hline => ?_
  have hearlier : ∀ line ∈ ([] : List String), '\n' ∉ line.toList := List.forall_mem_nil _
  rw [List.reduceOption_mem_iff] at hline
  exact forall_enteredAfter List.not_mem_nil hearlier hreads line hline

/-- Nothing is looked at after the end of the input or a line that quits. -/
theorem runTerminal_append (s : Session δ) {reads : List Read}
    (h : .endOfInput ∈ reads ∨ (entered reads).reduceOption.any (isCommand .quit) = true)
    (more : List Read) : runTerminal s (reads ++ more) = runTerminal s reads := by
  obtain ⟨entries, happend, hend⟩ := exists_enteredAfter_append [] reads more
  rw [runTerminal_eq, runTerminal_eq, entered, happend]
  rcases h with hmem | hquit
  · rw [hend hmem, List.append_nil]
    rfl
  · obtain ⟨line, hline, hquit⟩ := List.any_eq_true.1 hquit
    exact runEntered_append s (List.reduceOption_mem_iff.1 hline) hquit entries

/-- **At a terminal a session does what it does over the text of what was entered**: the result and
the session afterwards are the same, that is the stack, the history and what was written.  The
reports are the same too, except for a hint at each interrupt up to the end of the session, which
stands after the reports of the lines before the interrupt and before those of the lines after it.
Nothing is looked at after the end of the input or a line that quits. -/
theorem runTerminal_agrees_with_run (reliable : Reliable δ) (s : Session δ)
    (hs : reliable.Sound s.out) (reads : List Read)
    (hreads : ∀ line, .submit line ∈ reads → '\n' ∉ line.toList) :
    let lines := (entered reads).reduceOption
    let run := s.run ⟨(enteredText reads).toUTF8.toList, none⟩
    let call := runTerminal s reads
    call.result = run.result ∧
    call.session = run.session ∧
    run.events = s.reports (executed lines) ++ [farewell] ∧
    call.events = reportsWithHints s (handled (entered reads)) ++ [farewell] ∧
    call.events.filter (· ≠ interruptHint) = run.events ∧
    call.events.count interruptHint = (handled (entered reads)).count none ∧
    (.endOfInput ∈ reads ∨ lines.any (isCommand .quit) = true →
      ∀ more, runTerminal s (reads ++ more) = call) := by
  intro lines run call
  have hrun : run = (s.feedLines lines).concluded := run_enteredText s hreads
  have hcall : call = { (s.feedLines lines).concluded with
      events := reportsWithHints s (handled (entered reads)) ++ [farewell] } :=
    (runTerminal_eq s reads).trans (runEntered_eq hs _)
  have hevents : run.events = s.reports (executed lines) ++ [farewell] := by
    rw [hrun, Call.concluded, s.events_feedLines, Reliable.fed_eq hs]
  refine ⟨?_, ?_, hevents, ?_, ?_, ?_, runTerminal_append s⟩
  · rw [hcall, hrun]
  · rw [hcall, hrun]
  · rw [hcall]
  · rw [hcall, hevents, List.filter_append, filter_reportsWithHints, reduceOption_handled]
    rfl
  · rw [hcall, List.count_append, count_reportsWithHints]
    rfl

/-- The blank line is not recalled, the recalled one is recalled once more, and the second interrupt
comes too late. -/
theorem runTerminal_recalls_until_quit :
    let reads : List Read :=
      [.submit "2", .submit " ", .interrupt, .recall, .recall, .submit "Quit", .interrupt, .recall]
    let text := "2\n \n2\n2\nQuit\nQuit\n"
    Buffer.reliable.Sound Buffer.unlimited ∧
    (∀ line, .submit line ∈ reads → '\n' ∉ line.toList) ∧
    (entered reads).reduceOption.any (isCommand .quit) = true ∧
    (runTerminal (.fresh Buffer.unlimited) reads).session =
      ((Session.fresh Buffer.unlimited).run ⟨text.toUTF8.toList, none⟩).session ∧
    (runTerminal (.fresh Buffer.unlimited) reads).events.count interruptHint = 1 ∧
    ∀ more, runTerminal (.fresh Buffer.unlimited) (reads ++ more) =
      runTerminal (.fresh Buffer.unlimited) reads := by
  intro reads text
  have hsound : Buffer.reliable.Sound Buffer.unlimited := ⟨rfl, rfl⟩
  have hreads : ∀ line, .submit line ∈ reads → '\n' ∉ line.toList := by
    intro line hline
    simp only [reads, List.mem_cons, Read.submit.injEq, reduceCtorEq, List.not_mem_nil,
      false_or, or_false] at hline
    rcases hline with rfl | rfl | rfl <;> decide
  have hquit : (entered reads).reduceOption.any (isCommand .quit) = true := by decide +kernel
  have htext : enteredText reads = text := by decide +kernel
  have hhints : (handled (entered reads)).count none = 1 := by decide +kernel
  obtain ⟨-, hsession, -, -, -, hcount, hmore⟩ :=
    runTerminal_agrees_with_run Buffer.reliable (.fresh .unlimited) hsound reads hreads
  rw [htext] at hsession
  exact ⟨hsound, hreads, hquit, hsession, hcount.trans hhints, hmore (.inr hquit)⟩

end LineEditor

end StackCalculator
