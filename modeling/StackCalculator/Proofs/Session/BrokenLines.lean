import StackCalculator.Proofs.Command.Grammar
import StackCalculator.Proofs.Session.Endings
import StackCalculator.Proofs.Text.Gaps

/-!
# Lines that are no text

A stream may have lines that are not valid UTF-8.  Such a line is read with U+FFFD in it, and this
file follows that character: it is no blank, so trimming leaves it there, and it is not of ASCII, so
no command has it (`Command.parse_of_foreign`).  Hence such a line is refused, and a session that is
given it says so and is the same as before: `Session.feed_broken`.

What follows is about any line that leaves the session as it is.  The lines before it come to what
they come to without it, and then either they have stopped the session and the line is never looked
at, or the lines after it start where they would have started: `Session.feedLines_append` has both
cases.  `Session.broken_line_is_inert` states this of a stream: **deleting a line that is no text
changes nothing but the log, which lacks what was said about that line.**
-/

set_option autoImplicit false

namespace StackCalculator

/-! ## A character that no command has -/

namespace Text

theorem mem_dropWhile_of_neg {p : Char → Bool} {c : Char} (hc : p c = false) {text : List Char}
    (h : c ∈ text) : c ∈ text.dropWhile p := by
  rw [← List.takeWhile_append_dropWhile (p := p) (l := text), List.mem_append] at h
  refine h.resolve_left fun htake => ?_
  have hp : p c = true := List.mem_takeWhile_imp htake
  exact absurd (hc.symm.trans hp) Bool.false_ne_true

/-- Trimming takes nothing away but blanks. -/
theorem mem_trim {c : Char} (hc : isBlank c = false) {text : List Char} (h : c ∈ text) :
    c ∈ trim text := by
  rw [trim, trimEnd, List.mem_reverse]
  exact mem_dropWhile_of_neg hc (List.mem_reverse.2 (mem_dropWhile_of_neg hc h))

end Text

namespace Command

/-- Why a line is refused that is no command. -/
def refusal (line : String) : CommandError :=
  if pushWord.isPrefixOf (Text.normalize line.toList) then .invalidPush
  else .unrecognized (String.ofList (Text.normalize line.toList))

/-- A line is refused if it has a character in it that is neither of ASCII nor a blank. -/
theorem parse_of_foreign {line : String} {c : Char} (hmem : c ∈ line.toList)
    (hascii : 0x80 ≤ c.toNat) (hblank : Text.isBlank c = false) :
    parse line = .error (refusal line) := by
  obtain ⟨result, hreads⟩ := exists_reads (Text.trim line.toList)
  rw [parse_of_reads hreads]
  have herror : ∀ command, result ≠ .ok command := by
    rintro command rfl
    rcases hreads.ascii_or_isBlank c (Text.mem_trim hblank hmem) with hlt | hblank'
    · omega
    · exact absurd (hblank.symm.trans hblank') Bool.false_ne_true
  cases hreads with
  | number _ | push _ | keyword _ _ => exact absurd rfl (herror _)
  | invalidPush hpush _ =>
    rw [refusal, if_pos (show pushWord.isPrefixOf (Text.normalize line.toList) = true from
      isPrefixOf_lowercase_iff.2 hpush)]
  | unrecognized _ hpush _ =>
    rw [refusal, if_neg (show ¬ pushWord.isPrefixOf (Text.normalize line.toList) = true from
      mt isPrefixOf_lowercase_iff.1 hpush)]
    rfl

end Command

namespace Session

variable {δ : Type} [Destination δ]

/-- What a session reports of a line that is refused. -/
def refusalReports (line : String) : List Event :=
  [.rejected (String.ofList (Text.normalize line.toList)) (Command.refusal line),
    .report (Command.refusal line).severity (Command.refusal line).message]

/-- A line that is not valid UTF-8 is refused and does nothing. -/
theorem feed_broken (s : Session δ) {bytes : List UInt8} (h : ¬ bytes.toByteArray.IsValidUTF8) :
    s.feed (decodeLine bytes) = ⟨.ok .continue, refusalReports (decodeLine bytes), s⟩ := by
  have hmem : '\uFFFD' ∈ (decodeLine bytes).toList := by
    rw [decodeLine, String.toList_ofList]
    exact Text.Utf8.replacement_mem_decodeLossy h
  have hfilled : Text.trim (decodeLine bytes).toList ≠ [] :=
    List.ne_nil_of_mem (Text.mem_trim (by decide) hmem)
  have hparse := Command.parse_of_foreign hmem (by decide) (by decide)
  rw [s.feed_of_not_blank hfilled, Calculator.execute, Calculator.execute, parse_normalize, hparse]
  rfl

/-! ## Lines before and after a line -/

/-- Lines before others have stopped the session, or else the others are fed to what they have made
of it. -/
theorem feedLines_append (s : Session δ) (start rest : List String) :
    s.feedLines (start ++ rest) =
      if (s.feedLines start).result = .ok .continue then
        ((s.after start).feedLines rest).precededBy (s.reports start)
      else s.feedLines start := by
  induction start generalizing s with
  | nil => rfl
  | cons line start ih =>
    rw [List.cons_append]
    cases hstops : s.stopsOn line with
    | true =>
      rw [feedLines_cons_of_stopsOn hstops, feedLines_cons_of_stopsOn hstops,
        if_neg (result_feed_ne_continue hstops)]
    | false =>
      rw [feedLines_cons_of_not_stopsOn hstops, feedLines_cons_of_not_stopsOn hstops, ih]
      by_cases hresult : ((s.feed line).session.feedLines start).result = .ok .continue
      · simp [Call.precededBy, hresult, after, reports]
      · simp [Call.precededBy, hresult]

/-- A line is fed exactly if those before it do not stop the session. -/
theorem length_lt_length_fed_iff (s : Session δ) (start : List String) (line : String)
    (later : List String) :
    start.length < (s.fed (start ++ line :: later)).length ↔
      (s.feedLines start).result = .ok .continue := by
  induction start generalizing s with
  | nil => simp [fed, feedLines]
  | cons first start ih =>
    rw [List.cons_append, fed]
    cases hstops : s.stopsOn first with
    | true =>
      rw [feedLines_cons_of_stopsOn hstops]
      simp [result_feed_ne_continue hstops]
    | false =>
      rw [feedLines_cons_of_not_stopsOn hstops]
      simpa [Call.precededBy] using ih (s.feed first).session

/-- A line that only says something makes no other difference than that, and not even that if the
session is stopped before it. -/
theorem feedLines_insert (s : Session δ) (start later : List String) {line : String}
    {told : List Event}
    (hline : ∀ before : Session δ, before.feed line = ⟨.ok .continue, told, before⟩) :
    let call := s.feedLines (start ++ line :: later)
    let call' := s.feedLines (start ++ later)
    let reached := start.length < (s.fed (start ++ line :: later)).length
    call.result = call'.result ∧ call.session = call'.session ∧
    ∃ events, call.events = s.reports (s.fed start) ++ (if reached then told else []) ++ events ∧
      call'.events = s.reports (s.fed start) ++ events := by
  simp only [length_lt_length_fed_iff, feedLines_append, ← events_feedLines]
  by_cases hresult : (s.feedLines start).result = .ok .continue
  · have hrest : (s.after start).feedLines (line :: later) =
        ((s.after start).feedLines later).precededBy told := by
      rw [feedLines, hline]
    have hevents : (s.feedLines start).events = s.reports start := by
      have happend := congrArg Call.events (s.feedLines_append start [])
      rw [List.append_nil, if_pos hresult] at happend
      exact happend.trans (List.append_nil _)
    simp only [hresult, if_true, hrest, hevents]
    exact ⟨rfl, rfl, _, (List.append_assoc ..).symm, rfl⟩
  · simp [hresult]

/-! ## Streams -/

/-- The texts of the lines that are read from a stream with this cut. -/
def texts (source : Source) (lines : List (List UInt8)) (rest : List UInt8) : List String :=
  (lines ++ if rest ≠ [] ∧ source.failure = none then [rest] else []).map decodeLine

/-- What deleting a line of the cut does to the lines that are read: unless it is a rest that is not
read anyway, they lack that line. -/
theorem texts_delete {source : Source} {lines start later : List (List UInt8)}
    {rest line : List UInt8} (hcut : source.IsCut lines rest)
    (hsplit : lines ++ [rest] = start ++ line :: later) (hne : line ≠ []) :
    ∃ lines' rest',
      Source.IsCut ⟨(start ++ later).flatten, source.failure⟩ lines' rest' ∧
      ((∃ others, texts source lines rest = start.map decodeLine ++ decodeLine line :: others ∧
          texts ⟨(start ++ later).flatten, source.failure⟩ lines' rest' =
            start.map decodeLine ++ others) ∨
        texts source lines rest = start.map decodeLine ∧
          texts ⟨(start ++ later).flatten, source.failure⟩ lines' rest' =
            start.map decodeLine) := by
  rcases List.eq_nil_or_concat later with rfl | ⟨others, last, rfl⟩
  · -- the line is the rest
    obtain ⟨rfl, hrest⟩ := List.append_inj' hsplit rfl
    obtain rfl : rest = line := by simpa using hrest
    refine ⟨lines, [], ⟨by simp, hcut.line, List.not_mem_nil⟩, ?_⟩
    by_cases hfailure : source.failure = none
    · exact .inl ⟨[], by simp [texts, hne, hfailure]⟩
    · exact .inr (by simp [texts, hfailure])
  · obtain ⟨rfl, hlast⟩ : lines = start ++ line :: others ∧ [rest] = [last] :=
      List.append_inj' (by simpa using hsplit) rfl
    obtain rfl : rest = last := by simpa using hlast
    refine ⟨start ++ others, rest, ⟨by simp, fun text htext => hcut.line text ?_, hcut.rest⟩,
      .inl ⟨texts source others rest, by simp [texts], by simp [texts]⟩⟩
    simp only [List.mem_append, List.mem_cons] at htext ⊢
    tauto

theorem feedLines_texts (s : Session δ) {source : Source} {lines : List (List UInt8)}
    {rest : List UInt8} (hcut : source.IsCut lines rest) :
    s.feedLines (source.lines.map decodeLine) = s.feedLines (texts source lines rest) :=
  feedLines_congr hcut.map_trim_lines

/-- **A line that is not valid UTF-8 is always inert.**  Take any line of any stream, counting as a
line also what stands after the last line feed.  If it is not valid UTF-8, then a session to which
it is fed refuses it, as a failed push if it begins with `push` and as unknown otherwise, writes
nothing, keeps its stack and its history, and goes on.  Deleting the line from the stream, with its
line feed if it has one, changes neither the result nor the session that is left behind.  Of the log
it takes away what was reported of the line, if the session got that far. -/
theorem broken_line_is_inert (s : Session δ) {source : Source}
    {lines start later : List (List UInt8)} {rest line : List UInt8}
    (hcut : source.IsCut lines rest)
    (hsplit : lines ++ [rest] = start ++ line :: later)
    (hbroken : ¬ line.toByteArray.IsValidUTF8) :
    let call := s.run source
    let call' := s.run ⟨(start ++ later).flatten, source.failure⟩
    let before := s.after (start.map decodeLine)
    let earlier := s.reports (s.fed (start.map decodeLine))
    let told := refusalReports (decodeLine line)
    -- more lines are fed than stand before this one
    let reached := start.length < (s.fed (texts source lines rest)).length
    before.feed (decodeLine line) = ⟨.ok .continue, told, before⟩ ∧
    call.result = call'.result ∧
    call.session = call'.session ∧
    ∃ others, call.events = earlier ++ (if reached then told else []) ++ others ∧
      call'.events = earlier ++ others := by
  intro call call' before earlier told reached
  have hne : line ≠ [] := by
    rintro rfl
    exact hbroken ⟨[], rfl⟩
  obtain ⟨lines', rest', hcut', hdelete⟩ := texts_delete hcut hsplit hne
  refine ⟨before.feed_broken hbroken, ?_⟩
  obtain ⟨hresult, hsession, events, hevents, hevents'⟩ :
      let fed := s.feedLines (source.lines.map decodeLine)
      let fed' := s.feedLines
        ((Source.lines ⟨(start ++ later).flatten, source.failure⟩).map decodeLine)
      fed.result = fed'.result ∧ fed.session = fed'.session ∧
      ∃ events, fed.events = earlier ++ (if reached then told else []) ++ events ∧
        fed'.events = earlier ++ events := by
    rw [s.feedLines_texts hcut, s.feedLines_texts hcut']
    rcases hdelete with ⟨others, htexts, htexts'⟩ | ⟨htexts, htexts'⟩
    · have hinsert := s.feedLines_insert (start.map decodeLine) others fun before =>
        before.feed_broken hbroken
      rwa [List.length_map, ← htexts, ← htexts'] at hinsert
    · have hreached : ¬ reached := by
        have hshort := (s.fed_prefix (start.map decodeLine)).length_le
        rw [List.length_map, ← htexts] at hshort
        exact Nat.not_lt.2 hshort
      have hevents := s.events_feedLines (start.map decodeLine)
      rw [if_neg hreached, List.append_nil, htexts, htexts']
      exact ⟨rfl, rfl, [], by rw [hevents, List.append_nil], by rw [hevents, List.append_nil]⟩
  refine ⟨by rw [result_run, result_run, hresult], hsession, events ++ [farewell], ?_, ?_⟩
  · rw [← List.append_assoc]
    exact congrArg (· ++ [farewell]) hevents
  · rw [← List.append_assoc]
    exact congrArg (· ++ [farewell]) hevents'

/-- The second line of these three would push a number, were it not for the byte before its line
feed, which begins a character. -/
theorem run_without_broken_push :
    let bytes : List UInt8 := [0x31, 0x0A, 0x70, 0x75, 0x73, 0x68, 0x20, 0x32, 0xC3, 0x0A, 0x33]
    Source.IsCut ⟨bytes, none⟩ [[0x31, 0x0A], [0x70, 0x75, 0x73, 0x68, 0x20, 0x32, 0xC3, 0x0A]]
      [0x33] ∧
    ¬ [0x70, 0x75, 0x73, 0x68, 0x20, 0x32, 0xC3, 0x0A].toByteArray.IsValidUTF8 ∧
    ((fresh Buffer.unlimited).run ⟨bytes, none⟩).session =
      ((fresh Buffer.unlimited).run ⟨[0x31, 0x0A, 0x33], none⟩).session := by
  intro bytes
  have hcut : Source.IsCut ⟨bytes, none⟩
      [[0x31, 0x0A], [0x70, 0x75, 0x73, 0x68, 0x20, 0x32, 0xC3, 0x0A]] [0x33] := by
    refine ⟨rfl, ?_, by decide⟩
    simp only [List.forall_mem_cons]
    exact ⟨⟨[0x31], rfl, by decide⟩, ⟨[0x70, 0x75, 0x73, 0x68, 0x20, 0x32, 0xC3], rfl, by decide⟩,
      nofun⟩
  have hbroken : ¬ [0x70, 0x75, 0x73, 0x68, 0x20, 0x32, 0xC3, 0x0A].toByteArray.IsValidUTF8 := by
    rw [Text.Utf8.isValidUTF8_iff]
    decide
  have hsplit : ([[0x31, 0x0A], [0x70, 0x75, 0x73, 0x68, 0x20, 0x32, 0xC3, 0x0A]] ++ [[0x33]] :
      List (List UInt8)) =
    [[0x31, 0x0A]] ++ [0x70, 0x75, 0x73, 0x68, 0x20, 0x32, 0xC3, 0x0A] :: [[0x33]] := rfl
  exact ⟨hcut, hbroken, (broken_line_is_inert (fresh Buffer.unlimited) hcut hsplit hbroken).2.2.1⟩

end Session

end StackCalculator
