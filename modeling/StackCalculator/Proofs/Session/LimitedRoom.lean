import StackCalculator.Proofs.Session.Destinations
import StackCalculator.Proofs.Session.Listings

/-!
# A destination that fills up

A buffer with limited room takes what fits and then fails.  Here a session that writes to such a
buffer is compared with one that is asked for the same but writes to a buffer without a limit.  They
part at the first listing that does not fit: the one stops reading a stream there and the other goes
on, so from then on they may differ in everything.

What holds all along is that the one buffer trails the other (`Buffer.Trails`): it has the first `n`
bytes of what the other has, and room for the rest of these.

* `Buffer.Trails.writeLine` — writing the same listing to both keeps to that.
* `Buffer.Trails.writeLine_left`, `Buffer.Trails.writeLine_right` — once the room is used up, so does
  writing anything to either of them, and the two sessions need not agree on what.
* `Session.Follows` — until then the calculators are the same, and so is everything else that comes
  of a line (`Session.Follows.feedLines`).

Hence **a buffer that fills up holds a clean prefix**: `Session.limited_room_holds_prefix`.
-/

set_option autoImplicit false

namespace StackCalculator

open Destination (writeLine)

/-! ## Buffers -/

namespace Buffer

/-- How flushing a buffer ends. -/
def flushed (b : Buffer) : Except String Unit :=
  if b.flushFails then .error "flush failed" else .ok ()

/-- What becomes of a buffer with limited room when the bytes are written to it: it takes what fits
of them. -/
structure Takes (room : Nat) (b : Buffer) (bytes : List UInt8) (after : Buffer) : Prop where
  /-- It has the first of the bytes. -/
  contents : after.contents = b.contents ++ bytes.take room
  /-- There is so much less room. -/
  room : after.room = some (room - bytes.length)
  /-- It is the same kind of buffer. -/
  flushFails : after.flushFails = b.flushFails

theorem takes_write {b : Buffer} {room : Nat} (h : b.room = some room) (bytes : List UInt8) :
    ∃ after, Takes room b bytes after ∧ Destination.write b bytes =
      (if bytes.length ≤ room then .ok () else .error "output closed", after) := by
  refine ⟨{ b.append (bytes.take room) with room := some (room - bytes.length) },
    ⟨b.contents_append _, rfl, rfl⟩, ?_⟩
  simp only [Destination.write, write, h]
  split <;> rfl

section Takes

variable {room : Nat} {b mid after : Buffer} {bytes more : List UInt8}

theorem Takes.append (h : Takes room b bytes mid) (h' : Takes (room - bytes.length) mid more after) :
    Takes room b (bytes ++ more) after where
  contents := by rw [h'.contents, h.contents, List.take_append, List.append_assoc]
  room := by rw [h'.room, Nat.sub_sub, List.length_append]
  flushFails := h'.flushFails.trans h.flushFails

/-- When something does not fit, nothing of what follows does. -/
theorem Takes.append_of_lt (h : Takes room b bytes mid) (hlt : room < bytes.length) :
    Takes room b (bytes ++ more) mid where
  contents := by rw [h.contents, List.take_append_of_le_length hlt.le]
  room := by
    have hnone : room - (bytes ++ more).length = 0 := by rw [List.length_append]; omega
    rw [h.room, hnone, Nat.sub_eq_zero_of_le hlt.le]
  flushFails := h.flushFails

/-- A listing that does not fit fills the buffer all the same, be it the line feed only that is left
over. -/
theorem takes_writeLine (h : b.room = some room) (listing : String) :
    ∃ after, Takes room b (listingBytes listing) after ∧ writeLine b listing =
      (if (listingBytes listing).length ≤ room then b.flushed else .error "output closed",
        after) := by
  rw [listingBytes, List.length_append, List.length_singleton]
  generalize hbytes : listing.toUTF8.toList = bytes
  obtain ⟨mid, htakes, hwrite⟩ := takes_write h bytes
  rcases Nat.lt_or_ge room bytes.length with hlt | hle
  · refine ⟨mid, htakes.append_of_lt hlt, ?_⟩
    rw [if_neg (by omega)] at hwrite
    rw [writeLine, hbytes, hwrite, if_neg (by omega)]
  · obtain ⟨after, htakes', hwrite'⟩ := takes_write htakes.room [10]
    have hboth := htakes.append htakes'
    have hfeed : ([10] : List UInt8).length ≤ room - bytes.length ↔ bytes.length + 1 ≤ room := by
      rw [List.length_singleton]
      omega
    refine ⟨after, hboth, ?_⟩
    rw [if_pos hle] at hwrite
    by_cases hfits : bytes.length + 1 ≤ room
    · rw [if_pos (hfeed.2 hfits)] at hwrite'
      simp only [writeLine, hbytes, hwrite, hwrite']
      rw [if_pos hfits, flushed, ← hboth.flushFails]
      rfl
    · rw [if_neg (mt hfeed.1 hfits)] at hwrite'
      simp only [writeLine, hbytes, hwrite, hwrite']
      rw [if_neg hfits]

end Takes

theorem writeLine_of_unlimited {b : Buffer} (h : b.room = none) (listing : String) :
    ∃ after, after.contents = b.contents ++ listingBytes listing ∧ after.room = none ∧
      after.flushFails = b.flushFails ∧ writeLine b listing = (b.flushed, after) := by
  refine ⟨(b.append listing.toUTF8.toList).append [10], ?_, h, rfl, ?_⟩
  · rw [contents_append, contents_append, listingBytes, List.append_assoc]
  · simp only [writeLine, Destination.write, write, h, append]
    rfl

/-! ## A buffer that trails another -/

/-- A buffer with room for `n` bytes in all has the first `n` bytes of another one without a
limit. -/
structure Trails (n : Nat) (b b' : Buffer) : Prop where
  /-- It has these bytes. -/
  contents : b.contents = b'.contents.take n
  /-- There is room for the rest of them. -/
  room : b.room = some (n - b'.contents.length)
  /-- The other has no limit. -/
  unlimited : b'.room = none
  /-- They do not differ in anything else. -/
  flushFails : b.flushFails = b'.flushFails

namespace Trails

variable {n : Nat} {b b' : Buffer}

/-- Writing the same to both; the result is the same as well, as long as it fits. -/
theorem writeLine (h : Trails n b b') (listing : String) :
    Trails n (writeLine b listing).2 (writeLine b' listing).2 ∧
      b'.contents.length ≤ (Destination.writeLine b' listing).2.contents.length ∧
      ((Destination.writeLine b' listing).2.contents.length ≤ n →
        (Destination.writeLine b listing).1 = (Destination.writeLine b' listing).1) := by
  obtain ⟨after, htakes, hwrite⟩ := takes_writeLine h.room listing
  obtain ⟨after', hcontents, hroom, hflush, hwrite'⟩ := writeLine_of_unlimited h.unlimited listing
  have hlength : after'.contents.length = b'.contents.length + (listingBytes listing).length := by
    rw [hcontents, List.length_append]
  rw [hwrite, hwrite']
  dsimp only
  refine ⟨⟨?_, ?_, hroom, ?_⟩, by omega, fun hle => ?_⟩
  · rw [htakes.contents, h.contents, hcontents, List.take_append]
  · rw [htakes.room, hlength, Nat.sub_sub]
  · rw [htakes.flushFails, h.flushFails, hflush]
  · rw [if_pos (by omega), flushed, flushed, h.flushFails]

/-- Once the room is used up, nothing that is written is taken, … -/
theorem writeLine_left (h : Trails n b b') (hfull : n < b'.contents.length) (listing : String) :
    Trails n (Destination.writeLine b listing).2 b' := by
  have hnone : n - b'.contents.length = 0 := by omega
  obtain ⟨after, htakes, hwrite⟩ := takes_writeLine h.room listing
  rw [hwrite]
  refine ⟨?_, ?_, h.unlimited, htakes.flushFails.trans h.flushFails⟩
  · rw [htakes.contents, hnone, List.take_zero, List.append_nil, h.contents]
  · rw [htakes.room, hnone, Nat.zero_sub]

/-- … and what the other buffer takes does not matter. -/
theorem writeLine_right (h : Trails n b b') (hfull : n < b'.contents.length) (listing : String) :
    Trails n b (Destination.writeLine b' listing).2 ∧
      n < (Destination.writeLine b' listing).2.contents.length := by
  obtain ⟨after, hcontents, hroom, hflush, hwrite⟩ := writeLine_of_unlimited h.unlimited listing
  have hlength : after.contents.length = b'.contents.length + (listingBytes listing).length := by
    rw [hcontents, List.length_append]
  rw [hwrite]
  dsimp only
  refine ⟨⟨?_, ?_, hroom, h.flushFails.trans hflush.symm⟩, by omega⟩
  · rw [h.contents, hcontents, List.take_append_of_le_length hfull.le]
  · rw [h.room, Nat.sub_eq_zero_of_le hfull.le, Nat.sub_eq_zero_of_le (by omega)]

end Trails

end Buffer

/-! ## What is asked of a session -/

/-- Something that a session is asked for. -/
inductive Order where
  /-- To open with a greeting. -/
  | greet
  /-- To close with a farewell. -/
  | farewell
  /-- To execute a line. -/
  | feed (line : String)
  /-- To execute the lines of a stream. -/
  | run (source : Source)

namespace Order

/-- The lines that there are to execute. -/
def lines : Order → List String
  | .greet | .farewell => []
  | .feed line => [line]
  | .run source => source.lines.map Session.decodeLine

end Order

namespace Session

section Orders

variable {δ : Type} [Destination δ]

/-- What comes of an order, whatever there is to answer. -/
def obey (s : Session δ) : Order → Call δ Unit
  | .greet => ⟨.ok (), greeting, s⟩
  | .farewell => ⟨.ok (), [StackCalculator.farewell], s⟩
  | .feed line => ⟨(s.feed line).result.map fun _ => (), (s.feed line).events, (s.feed line).session⟩
  | .run source =>
    ⟨(s.run source).result.map fun _ => (), (s.run source).events, (s.run source).session⟩

/-- The session after some orders, whatever came of each. -/
def obeyAll (s : Session δ) (orders : List Order) : Session δ :=
  orders.foldl (fun s order => (s.obey order).session) s

theorem session_feedLines_singleton (s : Session δ) (line : String) :
    (s.feedLines [line]).session = (s.feed line).session := by
  rw [session_feedLines, fed]
  split <;> rfl

/-- Nothing is done to a session but that lines are fed to it. -/
theorem session_obey (s : Session δ) (order : Order) :
    (s.obey order).session = (s.feedLines order.lines).session := by
  cases order with
  | greet | farewell => rfl
  | feed line => exact (s.session_feedLines_singleton line).symm
  | run source => rfl

/-- A property of destinations that survives listings survives lines. -/
theorem out_feedLines_of_writeLine {P : δ → Prop}
    (hP : ∀ out listing, P out → P (writeLine out listing).2) {s : Session δ} (h : P s.out)
    (lines : List String) : P (s.feedLines lines).session.out := by
  induction lines generalizing s with
  | nil => exact h
  | cons line lines ih =>
    have hline : P (s.feed line).session.out := by
      rw [out_feed]
      split
      · exact hP _ _ h
      · exact h
    cases hstops : s.stopsOn line with
    | true => rw [feedLines_cons_of_stopsOn hstops]; exact hline
    | false => rw [feedLines_cons_of_not_stopsOn hstops]; exact ih hline

end Orders

/-! ## A session that follows another -/

/-- A session with room for `n` bytes in all follows another one without a limit: its buffer trails
the other, and as long as everything fits they have the same calculator. -/
structure Follows (n : Nat) (s s' : Session Buffer) : Prop where
  /-- The buffer trails the other. -/
  out : s.out.Trails n s'.out
  /-- The calculators differ only after something did not fit. -/
  calculator : s'.out.contents.length ≤ n → s.calculator = s'.calculator

namespace Follows

variable {n : Nat} {s s' : Session Buffer}

/-- Where something did not fit, it makes no difference what either session does. -/
theorem feedLines_of_lt (h : Follows n s s') (hfull : n < s'.out.contents.length)
    (lines lines' : List String) :
    Follows n (s.feedLines lines).session (s'.feedLines lines').session ∧
      n < (s'.feedLines lines').session.out.contents.length := by
  have hleft : (s.feedLines lines).session.out.Trails n s'.out :=
    out_feedLines_of_writeLine (P := fun out : Buffer => out.Trails n s'.out)
      (fun _ listing hout => hout.writeLine_left hfull listing) h.out lines
  have hright : (s.feedLines lines).session.out.Trails n (s'.feedLines lines').session.out ∧
      n < (s'.feedLines lines').session.out.contents.length :=
    out_feedLines_of_writeLine
      (P := fun out : Buffer => (s.feedLines lines).session.out.Trails n out ∧ n < out.contents.length)
      (fun _ listing hout => hout.1.writeLine_right hout.2 listing) ⟨hleft, hfull⟩ lines'
  exact ⟨⟨hright.1, fun hle => absurd hright.2 (Nat.not_lt.2 hle)⟩, hright.2⟩

/-- Where everything has fitted, a line does the same to both, and unless it does not fit itself,
they have the same answer. -/
theorem feed (h : Follows n s s') (hle : s'.out.contents.length ≤ n) (line : String) :
    Follows n (s.feed line).session (s'.feed line).session ∧
      ((s'.feed line).session.out.contents.length ≤ n →
        s.stopsOn line = s'.stopsOn line) := by
  have hcalculator := h.calculator hle
  obtain ⟨hout, -, hresult⟩ := h.out.writeLine s.calculator.stack.listing
  refine ⟨⟨?_, fun _ => calculator_feed_congr hcalculator line⟩, fun hfits => ?_⟩
  · rw [out_feed, out_feed, ← hcalculator]
    split
    · exact hout
    · exact h.out
  · rw [out_feed, ← hcalculator] at hfits
    rw [stopsOn, stopsOn, writeFailure?, writeFailure?, ← hcalculator]
    split at hfits
    · rw [hresult hfits]
    · simp [*]

/-- Feeding the same lines keeps one session following the other. -/
theorem feedLines (h : Follows n s s') (lines : List String) :
    Follows n (s.feedLines lines).session (s'.feedLines lines).session := by
  induction lines generalizing s s' with
  | nil => exact h
  | cons line lines ih =>
    rcases Nat.lt_or_ge n s'.out.contents.length with hfull | hle
    · exact (h.feedLines_of_lt hfull _ _).1
    obtain ⟨hline, hstops⟩ := h.feed hle line
    have hsession : ∀ t : Session Buffer, (t.feedLines (line :: lines)).session =
        ((t.feed line).session.feedLines (if t.stopsOn line then [] else lines)).session := by
      intro t
      cases hstop : t.stopsOn line with
      | true => rw [feedLines_cons_of_stopsOn hstop]; rfl
      | false => rw [feedLines_cons_of_not_stopsOn hstop]; rfl
    rw [hsession, hsession]
    rcases Nat.lt_or_ge n (s'.feed line).session.out.contents.length with hfull | hfits
    · exact (hline.feedLines_of_lt hfull _ _).1
    · rw [hstops hfits]
      split
      · exact hline
      · exact ih hline

theorem obeyAll (h : Follows n s s') (orders : List Order) :
    Follows n (s.obeyAll orders) (s'.obeyAll orders) := by
  induction orders generalizing s s' with
  | nil => exact h
  | cons order orders ih =>
    refine ih ?_
    show Follows n (s.obey order).session (s'.obey order).session
    rw [session_obey, session_obey]
    exact h.feedLines order.lines

end Follows

/-- **A buffer that fills up holds a clean prefix.**  Two sessions with the same calculator are
asked for the same, in any order; the one has room for `n` bytes in all, the other has no limit.
Then the one has written exactly the first `n` bytes of what the other has, whether these end
between two listings or within one; and the sessions have the same calculator if that is all of
them. -/
theorem limited_room_holds_prefix (c : Calculator) (flushFails : Bool) (n : Nat)
    (orders : List Order) :
    let limited := (Session.mk c (Buffer.mk [] (some n) flushFails)).obeyAll orders
    let unlimited := (Session.mk c (Buffer.mk [] none flushFails)).obeyAll orders
    limited.out.contents = unlimited.out.contents.take n ∧
    limited.out.contents.length = min n unlimited.out.contents.length ∧
    (unlimited.out.contents.length ≤ n → limited.calculator = unlimited.calculator) := by
  intro limited unlimited
  have hstart : Follows n (Session.mk c (Buffer.mk [] (some n) flushFails))
      (Session.mk c (Buffer.mk [] none flushFails)) :=
    ⟨⟨List.take_nil.symm, rfl, rfl, rfl⟩, fun _ => rfl⟩
  have hend : Follows n limited unlimited := hstart.obeyAll orders
  refine ⟨hend.out.contents, ?_, hend.calculator⟩
  rw [hend.out.contents, List.length_take]

/-- The listing is cut off after its first two bytes, and only one of the sessions comes to the line
after it. -/
example :
    let orders : List Order := [.greet, .run ⟨"1\nprint\n2".toUTF8.toList, none⟩, .feed "print"]
    let limited := (fresh { Buffer.unlimited with room := some 2 }).obeyAll orders
    let unlimited := (fresh Buffer.unlimited).obeyAll orders
    limited.out.contents = "[1".toUTF8.toList ∧
      unlimited.out.contents = "[1.0]\n[1.0, 2.0]\n".toUTF8.toList ∧
      limited.calculator.stack.size = 1 ∧ unlimited.calculator.stack.size = 2 := by
  decide +kernel

end Session

end StackCalculator
