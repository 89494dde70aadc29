import StackCalculator.Proofs.Text.LineFeeds

/-!
# Texts as bytes, and their lines

What was written as text is read as text: the bytes that stand for the characters of a text
(`encode`) are decoded to these characters, with no gap anywhere (`decode_encode`).  And the lines
of the bytes are the bytes of the lines (`splitOn_encode`).

A longer character is a lead byte followed by continuation bytes of six bits each.  The reader is
followed through them one byte at a time: `start_two`, `start_three` and `start_four` say where the
lead byte leads, `step_continuation` and `step_continuation_last` what becomes of the bits.  The
limits it sets on the byte after the lead byte are met because a character is neither written in
more bytes than it needs nor a surrogate nor beyond the last code point; this is all that
`limitOfThree_allows` and `limitOfFour_allows` ask for.

That the lines come out right needs nothing about bytes.  If a character had a line feed among its
bytes, then `decodeLossy_append_lineFeed` would find one in the text.
-/

set_option autoImplicit false

namespace StackCalculator.Text

/-! ## Lines -/

section Lines

variable {α : Type} [BEq α] [LawfulBEq α]

/-- Cutting undoes putting a separator after each part. -/
theorem splitOn_lines {x : α} {lines : List (List α)} {rest : List α}
    (hlines : ∀ line ∈ lines, x ∉ line) (hrest : x ∉ rest) :
    (lines.flatMap (· ++ [x]) ++ rest).splitOn x = lines ++ [rest] := by
  induction lines with
  | nil => exact List.splitOn_eq_singleton hrest
  | cons line lines ih =>
    obtain ⟨hline, hlines⟩ := List.forall_mem_cons.1 hlines
    have hcut : (line :: lines).flatMap (· ++ [x]) ++ rest =
        line ++ x :: (lines.flatMap (· ++ [x]) ++ rest) := by simp
    rw [hcut, List.splitOn_append_cons_self_of_not_mem hline, ih hlines, List.cons_append]

/-- Everything consists of parts with a separator after each and a rest without any. -/
theorem exists_lines (x : α) (xs : List α) :
    ∃ (lines : List (List α)) (rest : List α), xs = lines.flatMap (· ++ [x]) ++ rest ∧
      (∀ line ∈ lines, x ∉ line) ∧ x ∉ rest := by
  induction h : xs.length using Nat.strongRecOn generalizing xs with
  | _ n ih =>
    by_cases hmem : x ∈ xs
    · obtain ⟨line, xs, rfl, hline⟩ := List.eq_append_cons_of_mem hmem
      obtain ⟨lines, rest, rfl, hlines, hrest⟩ := ih xs.length (by simp [← h]; omega) xs rfl
      exact ⟨line :: lines, rest, by simp, List.forall_mem_cons.2 ⟨hline, hlines⟩, hrest⟩
    · exact ⟨[], xs, rfl, nofun, hmem⟩

end Lines

namespace Utf8

/-! ## The bytes of a text -/

/-- The bytes that stand for a text. -/
def encode (text : List Char) : List UInt8 := text.flatMap String.utf8EncodeChar

theorem encode_append (text text' : List Char) :
    encode (text ++ text') = encode text ++ encode text' :=
  List.flatMap_append

theorem toList_loop (bytes : ByteArray) (i : Nat) (read : List UInt8) :
    ByteArray.toList.loop bytes i read = read.reverse ++ bytes.data.toList.drop i := by
  fun_induction ByteArray.toList.loop bytes i read with
  | case1 i read h ih =>
    have hi : i < bytes.data.toList.length := by simpa using h
    rw [ih, List.drop_eq_getElem_cons hi]
    simp [ByteArray.get!, h]
  | case2 i read h =>
    rw [List.drop_eq_nil_of_le (by simpa using Nat.le_of_not_lt h), List.append_nil]

theorem toList_toUTF8 (text : String) : text.toUTF8.toList = encode text.toList := by
  conv_lhs => rw [← text.ofList_toList]
  rw [String.toUTF8_eq_toByteArray, String.toByteArray_ofList, List.utf8Encode, ByteArray.toList,
    toList_loop, List.toList_data_toByteArray]
  rfl

/-! ## From byte to byte -/

/-- The continuation byte with these bits. -/
def continuation (bits : Nat) : UInt8 := UInt8.ofNat (bits + 0x80)

/-- The limit after the lead byte with these bits of a character of three bytes. -/
def limitOfThree (bits : Nat) : Limit :=
  if bits = 0 then .fromA0 else if bits = 13 then .upTo9F else .free

/-- The limit after the lead byte with these bits of a character of four bytes. -/
def limitOfFour (bits : Nat) : Limit :=
  if bits = 0 then .from90 else if bits = 4 then .upTo8F else .free

theorem start_one : ∀ a < 128, start (UInt8.ofNat a) = ([some (Char.ofNat a)], .boundary) := by
  decide

theorem start_two : ∀ a < 32, 2 ≤ a → start (UInt8.ofNat (a + 0xC0)) = ([], .inside a .free 0) := by
  decide

theorem start_three : ∀ a < 16,
    start (UInt8.ofNat (a + 0xE0)) = ([], .inside a (limitOfThree a) 1) := by
  decide

theorem start_four : ∀ a < 5,
    start (UInt8.ofNat (a + 0xF0)) = ([], .inside a (limitOfFour a) 2) := by
  decide

theorem allows_continuation {limit : Limit} : ∀ b < 64, limit.allows (continuation b) =
    match limit with
    | .free => true
    | .fromA0 => decide (32 ≤ b)
    | .upTo9F => decide (b < 32)
    | .from90 => decide (16 ≤ b)
    | .upTo8F => decide (b < 16) := by
  cases limit <;> decide

theorem free_allows {b : Nat} (hb : b < 64) : Limit.free.allows (continuation b) = true :=
  allows_continuation b hb

theorem limitOfThree_allows {a b : Nat} (hb : b < 64) (hshort : a = 0 → 32 ≤ b)
    (hsurrogate : a = 13 → b < 32) : (limitOfThree a).allows (continuation b) = true := by
  rw [allows_continuation b hb, limitOfThree]
  by_cases h0 : a = 0
  · simp [h0, hshort h0]
  by_cases h13 : a = 13
  · simp [h13, hsurrogate h13]
  · simp [h0, h13]

theorem limitOfFour_allows {a b : Nat} (hb : b < 64) (hshort : a = 0 → 16 ≤ b)
    (hbeyond : a = 4 → b < 16) : (limitOfFour a).allows (continuation b) = true := by
  rw [allows_continuation b hb, limitOfFour]
  by_cases h0 : a = 0
  · simp [h0, hshort h0]
  by_cases h4 : a = 4
  · simp [h4, hbeyond h4]
  · simp [h0, h4]

theorem toNat_continuation : ∀ b < 64, (continuation b).toNat % 64 = b := by decide

theorem step_continuation {bits b : Nat} (more : Nat) {limit : Limit} (hb : b < 64)
    (hallows : limit.allows (continuation b) = true) :
    step (.inside bits limit (more + 1)) (continuation b) =
      ([], .inside (bits * 64 + b) .free more) := by
  simp [step, hallows, proceed, toNat_continuation b hb]

theorem step_continuation_last {bits b : Nat} {limit : Limit} (hb : b < 64)
    (hallows : limit.allows (continuation b) = true) :
    step (.inside bits limit 0) (continuation b) =
      ([some (Char.ofNat (bits * 64 + b))], .boundary) := by
  simp [step, hallows, proceed, toNat_continuation b hb]

/-! ## From character to character -/

theorem decode_two {a b : Nat} (ha : 2 ≤ a) (ha' : a < 32) (hb : b < 64) (bytes : List UInt8) :
    decode (UInt8.ofNat (a + 0xC0) :: continuation b :: bytes) =
      some (Char.ofNat (a * 64 + b)) :: decode bytes := by
  rw [decode, decodeFrom, step, start_two a ha' ha]
  simp only [decodeFrom, step_continuation_last hb (free_allows hb)]
  rfl

theorem decode_three {a b c : Nat} (ha : a < 16) (hb : b < 64) (hc : c < 64)
    (hshort : a = 0 → 32 ≤ b) (hsurrogate : a = 13 → b < 32) (bytes : List UInt8) :
    decode (UInt8.ofNat (a + 0xE0) :: continuation b :: continuation c :: bytes) =
      some (Char.ofNat ((a * 64 + b) * 64 + c)) :: decode bytes := by
  rw [decode, decodeFrom, step, start_three a ha]
  simp only [decodeFrom, step_continuation 0 hb (limitOfThree_allows hb hshort hsurrogate),
    step_continuation_last hc (free_allows hc)]
  rfl

theorem decode_four {a b c d : Nat} (ha : a < 5) (hb : b < 64) (hc : c < 64) (hd : d < 64)
    (hshort : a = 0 → 16 ≤ b) (hbeyond : a = 4 → b < 16) (bytes : List UInt8) :
    decode (UInt8.ofNat (a + 0xF0) :: continuation b :: continuation c :: continuation d :: bytes) =
      some (Char.ofNat (((a * 64 + b) * 64 + c) * 64 + d)) :: decode bytes := by
  rw [decode, decodeFrom, step, start_four a ha]
  simp only [decodeFrom, step_continuation 1 hb (limitOfFour_allows hb hshort hbeyond),
    step_continuation 0 hc (free_allows hc), step_continuation_last hd (free_allows hd)]
  rfl

theorem decode_utf8EncodeChar_append (c : Char) (bytes : List UInt8) :
    decode (String.utf8EncodeChar c ++ bytes) = some c :: decode bytes := by
  have hvalid : c.val.toNat < 0xD800 ∨ 0xDFFF < c.val.toNat ∧ c.val.toNat < 0x110000 := c.valid
  have hchar : ∀ code, code = c.val.toNat → Char.ofNat code = c := by
    rintro _ rfl
    exact c.ofNat_toNat
  have hmod : ∀ n, n % 64 < 64 := fun n => Nat.mod_lt n (by decide)
  fun_cases String.utf8EncodeChar c with
  | case1 v h =>
    have hstart := start_one v (by omega)
    rw [hchar v rfl] at hstart
    rw [List.singleton_append, decode, decodeFrom, step, hstart]
    rfl
  | case2 v h h' =>
    refine (decode_two (a := v / 64 % 32) (b := v % 64) ?_ ?_ (hmod _) bytes).trans ?_
    · omega
    · omega
    · rw [hchar _ (by omega)]
  | case3 v h h' h'' =>
    refine (decode_three (a := v / 4096 % 16) (b := v / 64 % 64) (c := v % 64) ?_ (hmod _) (hmod _)
      ?_ ?_ bytes).trans ?_
    · omega
    · omega
    · omega
    · rw [hchar _ (by omega)]
  | case4 v h h' h'' =>
    refine (decode_four (a := v / 262144 % 8) (b := v / 4096 % 64) (c := v / 64 % 64) (d := v % 64)
      ?_ (hmod _) (hmod _) (hmod _) ?_ ?_ bytes).trans ?_
    · omega
    · omega
    · omega
    · rw [hchar _ (by omega)]

/-! ## From text to text -/

/-- **A text is read as it was written.** -/
theorem decode_encode (text : List Char) : decode (encode text) = text.map some := by
  induction text with
  | nil => rfl
  | cons c text ih =>
    rw [encode, List.flatMap_cons, decode_utf8EncodeChar_append, ← encode, ih, List.map_cons]

theorem decode?_encode (text : List Char) : decode? (encode text) = some text := by
  rw [decode?, decode_encode]
  induction text with
  | nil => rfl
  | cons c text ih => simp [ih]

theorem decodeLossy_encode (text : List Char) : decodeLossy (encode text) = text := by
  simp [decodeLossy, decode_encode]

theorem encode_eq_nil_iff {text : List Char} : encode text = [] ↔ text = [] := by
  constructor
  · intro h
    have hread := decode?_encode text
    rw [h] at hread
    exact (Option.some.inj hread).symm
  · rintro rfl
    rfl

theorem lineFeed_not_mem_encode {text : List Char} (h : '\n' ∉ text) : 10 ∉ encode text := by
  intro hmem
  obtain ⟨start, rest, hsplit⟩ := List.append_of_mem hmem
  have hread := decodeLossy_append_lineFeed start rest
  rw [← hsplit, decodeLossy_encode] at hread
  exact h (hread ▸ List.mem_append_right _ List.mem_cons_self)

theorem encode_lines (lines : List (List Char)) :
    encode (lines.flatMap (· ++ ['\n'])) = (lines.map encode).flatMap (· ++ [10]) := by
  induction lines with
  | nil => rfl
  | cons line lines ih =>
    rw [List.flatMap_cons, encode_append, encode_append, ih]
    rfl

/-- **The lines of the bytes are the bytes of the lines.** -/
theorem splitOn_encode (text : List Char) :
    (encode text).splitOn 10 = (text.splitOn '\n').map encode := by
  obtain ⟨lines, rest, rfl, hlines, hrest⟩ := exists_lines '\n' text
  have hbytes : ∀ line ∈ lines.map encode, 10 ∉ line := by
    simpa using fun line hline => lineFeed_not_mem_encode (hlines line hline)
  rw [encode_append, encode_lines, splitOn_lines hbytes (lineFeed_not_mem_encode hrest),
    splitOn_lines hlines hrest, List.map_append, List.map_singleton]

end Utf8

end StackCalculator.Text
