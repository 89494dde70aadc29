import StackCalculator.Proofs.LineEditor.Terminal

/-!
# Sessions that end without a farewell

A session over a stream says farewell whatever ends it.  Over the line editor it is different: the
farewell belongs to the two regular endings, and an error goes past it.  This file says which input
leads to which, whatever the destination does and whatever a backspace deletes.

* `LineEditor.SaysFarewellIfEnded` — what holds of the loop of the line editor in either mode: it
  is kept by each line that is fed.
* `LineEditor.result_runPieces`, `LineEditor.result_runEntered` — the result is known from the lines
  alone: the piped editor feeds those before the first that is no text, and unless one of them stops
  the session, that one does.
* `LineEditor.saysFarewell_iff_ended` — **the farewell is said, once and after everything else,
  exactly if the session ends regularly**; which errors there are instead is told, too.

`LineEditor.farewell_missing` has an input of either mode that ends without a farewell, and over a
stream would not.
-/

set_option autoImplicit false

namespace StackCalculator

/-- The farewell is said once, after everything else. -/
def SaysFarewell (events : List Event) : Prop :=
  ∃ earlier, events = earlier ++ [farewell] ∧ farewell ∉ earlier

theorem SaysFarewell.mem {events : List Event} (h : SaysFarewell events) : farewell ∈ events := by
  obtain ⟨earlier, rfl, -⟩ := h
  exact List.mem_concat_self

theorem SaysFarewell.append {events earlier : List Event} (h : SaysFarewell events)
    (hearlier : farewell ∉ earlier) : SaysFarewell (earlier ++ events) := by
  obtain ⟨start, rfl, hstart⟩ := h
  exact ⟨earlier ++ start, (List.append_assoc _ _ _).symm, List.not_mem_append hearlier hstart⟩

/-- Over a stream the farewell is said whatever comes of it. -/
theorem Session.saysFarewell_run {δ : Type} [Destination δ] (s : Session δ) (source : Source) :
    SaysFarewell (s.run source).events := by
  refine ⟨_, congrArg (· ++ [farewell]) (s.events_feedLines _), ?_⟩
  exact s.info_not_mem_reports (by decide) _

namespace LineEditor

variable {δ : Type}

/-! ## The farewell and the result -/

/-- The farewell is said after a regular ending, and an error goes past it. -/
structure SaysFarewellIfEnded (call : Call δ Ending) : Prop where
  /-- After an ending it is there. -/
  ended : ∀ ending, call.result = .ok ending → SaysFarewell call.events
  /-- After an error it is not. -/
  failed : ∀ error, call.result = .error error → farewell ∉ call.events

namespace SaysFarewellIfEnded

variable {call : Call δ Ending}

theorem precededBy (h : SaysFarewellIfEnded call) {events : List Event}
    (hevents : farewell ∉ events) : SaysFarewellIfEnded (call.precededBy events) where
  ended ending hresult := (h.ended ending hresult).append hevents
  failed error hresult := List.not_mem_append hevents (h.failed error hresult)

theorem saysFarewell_iff (h : SaysFarewellIfEnded call) :
    SaysFarewell call.events ↔ ∃ ending, call.result = .ok ending := by
  refine ⟨fun hsays => ?_, fun ⟨ending, hresult⟩ => h.ended ending hresult⟩
  rw [exists_eq_ok_iff]
  rintro ⟨error, hresult⟩
  exact h.failed error hresult hsays.mem

theorem mem_iff (h : SaysFarewellIfEnded call) :
    farewell ∈ call.events ↔ SaysFarewell call.events := by
  refine ⟨fun hmem => ?_, SaysFarewell.mem⟩
  rw [h.saysFarewell_iff, exists_eq_ok_iff]
  rintro ⟨error, hresult⟩
  exact h.failed error hresult hmem

end SaysFarewellIfEnded

theorem saysFarewellIfEnded_ended (s : Session δ) (ending : Ending) :
    SaysFarewellIfEnded (ended s ending) where
  ended _ _ := ⟨[], rfl, List.not_mem_nil⟩
  failed _ hresult := by cases hresult

theorem saysFarewellIfEnded_of_error (s : Session δ) (error : SessionError) {events : List Event}
    (hevents : farewell ∉ events) : SaysFarewellIfEnded ⟨.error error, events, s⟩ where
  ended _ hresult := by cases hresult
  failed _ _ := hevents

variable [Destination δ]

/-- Feeding a line keeps to it. -/
theorem saysFarewellIfEnded_feedThen (s : Session δ) (line : String)
    {rest : Session δ → Call δ Ending} (hrest : ∀ s, SaysFarewellIfEnded (rest s)) :
    SaysFarewellIfEnded (feedThen s line rest) := by
  have hline : farewell ∉ (s.feed line).events := s.info_not_mem_events_feed (by decide) line
  rw [feedThen]
  split
  · exact (hrest _).precededBy hline
  · exact (saysFarewellIfEnded_ended _ _).precededBy hline
  · exact saysFarewellIfEnded_of_error _ _ hline

theorem saysFarewellIfEnded_runPieces (editing : Editing) (s : Session δ)
    (pieces : List (List UInt8)) : SaysFarewellIfEnded (editing.runPieces s pieces) := by
  induction pieces generalizing s with
  | nil => exact saysFarewellIfEnded_ended s _
  | cons piece rest ih =>
    rw [Editing.runPieces]
    split
    · exact saysFarewellIfEnded_ended s _
    · split
      · exact saysFarewellIfEnded_of_error s _ List.not_mem_nil
      · exact saysFarewellIfEnded_feedThen s _ ih

theorem saysFarewellIfEnded_runEntered (s : Session δ) (entries : List (Option String)) :
    SaysFarewellIfEnded (runEntered s entries) := by
  induction entries generalizing s with
  | nil => exact saysFarewellIfEnded_ended s _
  | cons entry entries ih =>
    cases entry with
    | none => exact (ih s).precededBy (by decide)
    | some line => exact saysFarewellIfEnded_feedThen s line ih

/-! ## The lines and the result -/

/-- The result of a session, given what came of its lines and, if they have not stopped it, what
else is wrong. -/
def resultOf (lines : Except SessionError Flow) (failure : Option SessionError) :
    Except SessionError Ending :=
  match lines with
  | .error error => .error error
  | .ok .quit => .ok .quit
  | .ok .continue =>
    match failure with
    | some error => .error error
    | none => .ok .endOfInput

theorem resultOf_eq_error_iff {lines : Except SessionError Flow} {failure : Option SessionError}
    {error : SessionError} :
    resultOf lines failure = .error error ↔
      lines = .error error ∨ lines = .ok .continue ∧ failure = some error := by
  rcases lines with error' | _ | _
  · simp [resultOf]
  · cases failure <;> simp [resultOf]
  · simp [resultOf]

theorem result_feedThen (s : Session δ) (line : String) {rest : Session δ → Call δ Ending}
    {lines : List String} {failure : Option SessionError}
    (hrest : (rest (s.feed line).session).result =
      resultOf ((s.feed line).session.feedLines lines).result failure) :
    (feedThen s line rest).result = resultOf (s.feedLines (line :: lines)).result failure := by
  have hline : ∀ result, (s.feed line).result = result →
      resultOf (s.feed line).result failure = resultOf result failure := fun _ h => by rw [h]
  rw [feedThen, Session.feedLines]
  rcases hresult : (s.feed line).result with error | _ | _
  · exact (hline _ hresult).symm
  · exact hrest
  · exact (hline _ hresult).symm

/-- The lines that the piped editor can read, given the parts between line feeds: those before the
first that is no text. -/
def Editing.readable (editing : Editing) : List (List UInt8) → List String
  | [] => []
  | piece :: rest =>
    if rest.isEmpty && piece.isEmpty then []
    else match editing.readLine? (!rest.isEmpty) piece with
      | none => []
      | some line => line :: editing.readable rest

/-- What stops the piped editor after the lines that it can read, unless it is the end. -/
def failure? (pieces : List (List UInt8)) : Option SessionError :=
  if pieces.all fun piece => (Text.Utf8.decode? piece).isSome then none else some notText

theorem failure?_eq_some_iff {pieces : List (List UInt8)} {error : SessionError} :
    failure? pieces = some error ↔
      error = notText ∧ ∃ piece ∈ pieces, Text.Utf8.decode? piece = none := by
  rw [failure?]
  split_ifs with h
  · simp only [List.all_eq_true, Option.isSome_iff_ne_none] at h
    exact ⟨nofun, fun ⟨_, piece, hpiece, hnone⟩ => absurd hnone (h piece hpiece)⟩
  · obtain ⟨piece, hpiece, hnone⟩ :
        ∃ piece ∈ pieces, Text.Utf8.decode? piece = none := by simpa using h
    exact ⟨fun heq => ⟨(Option.some.inj heq).symm, piece, hpiece, hnone⟩, fun ⟨heq, _⟩ => heq ▸ rfl⟩

theorem result_runPieces (editing : Editing) (s : Session δ) (pieces : List (List UInt8)) :
    (editing.runPieces s pieces).result =
      resultOf (s.feedLines (editing.readable pieces)).result (failure? pieces) := by
  induction pieces generalizing s with
  | nil => rfl
  | cons piece rest ih =>
    rw [Editing.runPieces, Editing.readable]
    split
    · rename_i hempty
      rw [Bool.and_eq_true, List.isEmpty_iff, List.isEmpty_iff] at hempty
      rw [hempty.1, hempty.2]
      rfl
    · rw [Editing.readLine?]
      cases hdecode : Text.Utf8.decode? piece with
      | none =>
        have hfailure : failure? (piece :: rest) = some notText :=
          failure?_eq_some_iff.2 ⟨rfl, piece, List.mem_cons_self, hdecode⟩
        rw [hfailure]
        rfl
      | some text =>
        have hfailure : failure? (piece :: rest) = failure? rest := by
          simp [failure?, hdecode]
        rw [hfailure]
        exact result_feedThen s _ (ih _)

/-- What was entered at a terminal tells the result. -/
theorem result_runEntered (s : Session δ) (entries : List (Option String)) :
    (runEntered s entries).result = resultOf (s.feedLines entries.reduceOption).result none := by
  induction entries generalizing s with
  | nil => rfl
  | cons entry entries ih =>
    cases entry with
    | none => exact ih s
    | some line => exact result_feedThen s line (ih _)

/-- **The farewell is said exactly if the session ends regularly**, once and after everything else,
and otherwise not at all.  What it is not said after is an error.  In either mode that is a listing
that cannot be written, which is then the last thing that was asked for; and over the piped editor
it may be a line that is no text, if no line before it stops the session.  It makes no difference
what a backspace deletes. -/
theorem saysFarewell_iff_ended (editing : Editing) (s : Session δ) (bytes : List UInt8)
    (reads : List Read) :
    (let call := editing.runPiped s bytes
     let fed := s.fed (editing.readable (bytes.splitOn 10))
     (SaysFarewell call.events ↔ ∃ ending, call.result = .ok ending) ∧
     (farewell ∈ call.events ↔ SaysFarewell call.events) ∧
     ∀ error, call.result = .error error ↔
       (∃ reason, error = .io reason ∧
         s.EndsOn fed fun before line => before.ListingFails line reason) ∨
       (¬ s.EndsOn fed fun before line => before.stopsOn line = true) ∧
         error = notText ∧ ∃ piece ∈ bytes.splitOn 10, Text.Utf8.decode? piece = none) ∧
    (let call := runTerminal s reads
     let fed := s.fed (entered reads).reduceOption
     (SaysFarewell call.events ↔ ∃ ending, call.result = .ok ending) ∧
     (farewell ∈ call.events ↔ SaysFarewell call.events) ∧
     ∀ error, call.result = .error error ↔
       ∃ reason, error = .io reason ∧
         s.EndsOn fed fun before line => before.ListingFails line reason) := by
  refine ⟨?_, ?_⟩
  · intro call fed
    have hcall : SaysFarewellIfEnded call := saysFarewellIfEnded_runPieces editing s _
    refine ⟨hcall.saysFarewell_iff, hcall.mem_iff, fun error => ?_⟩
    rw [← failure?_eq_some_iff, ← Session.result_feedLines_eq_error_iff,
      ← Session.result_feedLines_eq_continue_iff, ← resultOf_eq_error_iff]
    exact Eq.congr_left (result_runPieces editing s _)
  · intro call fed
    have hentered : call = runEntered s (entered reads) := runTerminal_eq s reads
    have hcall : SaysFarewellIfEnded call := hentered ▸ saysFarewellIfEnded_runEntered s _
    refine ⟨hcall.saysFarewell_iff, hcall.mem_iff, fun error => ?_⟩
    rw [hentered, result_runEntered, resultOf_eq_error_iff, Session.result_feedLines_eq_error_iff]
    simp [fed]

/-- A byte that is no text, and a listing with no room for it, end a session over the line editor
without a farewell.  The stream says it in the same place. -/
theorem farewell_missing :
    ¬ SaysFarewell (runPiped (.fresh Buffer.unlimited) [0xFF]).events ∧
    SaysFarewell ((Session.fresh Buffer.unlimited).run ⟨[0xFF], none⟩).events ∧
    ¬ SaysFarewell
      (runTerminal (.fresh { Buffer.unlimited with room := some 0 }) [.submit "print"]).events ∧
    SaysFarewell ((Session.fresh { Buffer.unlimited with room := some 0 }).run
      ⟨"print\n".toUTF8.toList, none⟩).events := by
  refine ⟨fun h => ?_, Session.saysFarewell_run _ _, fun h => ?_, Session.saysFarewell_run _ _⟩
  · exact absurd h.mem (by decide +kernel)
  · exact absurd h.mem (by decide +kernel)

end LineEditor

end StackCalculator
