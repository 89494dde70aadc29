import StackCalculator.Proofs.Text.Encoding
import StackCalculator.Text.Blank

/-!
# Bytes that are no text

`decode_encode` says that the bytes of a text are read without a gap.  Here is the converse: what is
read without a gap are the bytes of a text, namely of the one that is read.  So the gaps are exactly
where they should be, and bytes are valid UTF-8 if and only if there is none: `isValidUTF8_iff`.

The reader is followed once more from byte to byte, but the other way round.  If there is no gap,
then the bytes after a lead byte are continuation bytes that the limits allow (`exists_inside`,
`exists_inside_last`), and what the limits allow is how the character is written
(`utf8EncodeChar_two` to `utf8EncodeChar_four`).  This takes one character at a time off the bytes:
`exists_char`.

A lossy reader writes U+FFFD for a gap, so a text read from bytes that are not valid has that
character in it: `replacement_mem_decodeLossy`.
-/

set_option autoImplicit false

namespace StackCalculator.Text

namespace Utf8

/-! ## The bytes of a character -/

theorem val_ofNat {n : Nat} (h : n < 0xD800 ∨ 0xDFFF < n ∧ n < 0x110000) :
    (Char.ofNat n).val.toNat = n := by
  have hcode := Char.toNat_ofNat n
  rwa [if_pos (show n.isValidChar from h)] at hcode

theorem utf8EncodeChar_one {a : Nat} (ha : a < 128) :
    String.utf8EncodeChar (Char.ofNat a) = [UInt8.ofNat a] := by
  simp only [String.utf8EncodeChar, val_ofNat (n := a) (by omega)]
  rw [if_pos (by omega)]

theorem utf8EncodeChar_two {a b : Nat} (ha : 2 ≤ a) (ha' : a < 32) (hb : b < 64) :
    String.utf8EncodeChar (Char.ofNat (a * 64 + b)) = [UInt8.ofNat (a + 0xC0), continuation b] := by
  have hfirst : (a * 64 + b) / 64 % 32 = a := by omega
  have hsecond : (a * 64 + b) % 64 = b := by omega
  simp only [String.utf8EncodeChar, val_ofNat (n := a * 64 + b) (by omega)]
  rw [if_neg (by omega), if_pos (by omega), hfirst, hsecond, continuation]

theorem utf8EncodeChar_three {a b c : Nat} (ha : a < 16) (hb : b < 64) (hc : c < 64)
    (hshort : a = 0 → 32 ≤ b) (hsurrogate : a = 13 → b < 32) :
    String.utf8EncodeChar (Char.ofNat ((a * 64 + b) * 64 + c)) =
      [UInt8.ofNat (a + 0xE0), continuation b, continuation c] := by
  have hfirst : ((a * 64 + b) * 64 + c) / 4096 % 16 = a := by omega
  have hsecond : ((a * 64 + b) * 64 + c) / 64 % 64 = b := by omega
  have hthird : ((a * 64 + b) * 64 + c) % 64 = c := by omega
  simp only [String.utf8EncodeChar, val_ofNat (n := (a * 64 + b) * 64 + c) (by omega)]
  rw [if_neg (by omega), if_neg (by omega), if_pos (by omega), hfirst, hsecond, hthird,
    continuation, continuation]

theorem utf8EncodeChar_four {a b c d : Nat} (ha : a < 5) (hb : b < 64) (hc : c < 64) (hd : d < 64)
    (hshort : a = 0 → 16 ≤ b) (hbeyond : a = 4 → b < 16) :
    String.utf8EncodeChar (Char.ofNat (((a * 64 + b) * 64 + c) * 64 + d)) =
      [UInt8.ofNat (a + 0xF0), continuation b, continuation c, continuation d] := by
  have hfirst : (((a * 64 + b) * 64 + c) * 64 + d) / 262144 % 8 = a := by omega
  have hsecond : (((a * 64 + b) * 64 + c) * 64 + d) / 4096 % 64 = b := by omega
  have hthird : (((a * 64 + b) * 64 + c) * 64 + d) / 64 % 64 = c := by omega
  have hfourth : (((a * 64 + b) * 64 + c) * 64 + d) % 64 = d := by omega
  simp only [String.utf8EncodeChar, val_ofNat (n := ((a * 64 + b) * 64 + c) * 64 + d) (by omega)]
  rw [if_neg (by omega), if_neg (by omega), if_neg (by omega), hfirst, hsecond, hthird, hfourth,
    continuation, continuation, continuation]

/-! ## Reading without a gap -/

/-- Every byte that a limit allows is a continuation byte. -/
theorem exists_continuation {limit : Limit} {byte : UInt8} (h : limit.allows byte = true) :
    ∃ b < 64, byte = continuation b := by
  have hrange : 0x80 ≤ byte.toNat ∧ byte.toNat ≤ 0xBF := by
    cases limit <;>
      simp only [Limit.allows, Bool.and_eq_true, decide_eq_true_eq, UInt8.le_iff_toNat_le,
        UInt8.reduceToNat] at h <;> omega
  refine ⟨byte.toNat - 0x80, by omega, ?_⟩
  rw [continuation, Nat.sub_add_cancel hrange.1, UInt8.ofNat_toNat]

/-- The lead bytes, by the number of bytes that their characters have. -/
theorem exists_lead {byte : UInt8} (h : none ∉ (start byte).1) :
    (∃ a < 128, byte = UInt8.ofNat a) ∨ (∃ a < 32, 2 ≤ a ∧ byte = UInt8.ofNat (a + 0xC0)) ∨
      (∃ a < 16, byte = UInt8.ofNat (a + 0xE0)) ∨ ∃ a < 5, byte = UInt8.ofNat (a + 0xF0) := by
  have hoffset : ∀ offset, offset ≤ byte.toNat →
      byte = UInt8.ofNat (byte.toNat - offset + offset) := by
    intro offset hle
    rw [Nat.sub_add_cancel hle, UInt8.ofNat_toNat]
  simp only [start, UInt8.lt_iff_toNat_lt, UInt8.reduceToNat] at h
  by_cases h1 : byte.toNat < 0x80
  · exact .inl ⟨byte.toNat, h1, UInt8.ofNat_toNat.symm⟩
  by_cases h2 : byte.toNat < 0xC2
  · simp [h1, h2] at h
  by_cases h3 : byte.toNat < 0xE0
  · exact .inr (.inl ⟨byte.toNat - 0xC0, by omega, by omega, hoffset _ (by omega)⟩)
  by_cases h4 : byte.toNat < 0xF0
  · exact .inr (.inr (.inl ⟨byte.toNat - 0xE0, by omega, hoffset _ (by omega)⟩))
  by_cases h5 : byte.toNat < 0xF5
  · exact .inr (.inr (.inr ⟨byte.toNat - 0xF0, by omega, hoffset _ (by omega)⟩))
  · simp [h1, h2, h3, h4, h5] at h

/-- Inside a character there is a byte that the limit allows. -/
theorem exists_allowed {bits more : Nat} {limit : Limit} {bytes : List UInt8}
    (h : none ∉ decodeFrom (.inside bits limit more) bytes) :
    ∃ b rest, b < 64 ∧ bytes = continuation b :: rest ∧ limit.allows (continuation b) = true := by
  rcases bytes with _ | ⟨byte, rest⟩
  · simp [decodeFrom, State.gap] at h
  by_cases hallows : limit.allows byte = true
  · obtain ⟨b, hb, rfl⟩ := exists_continuation hallows
    exact ⟨b, rest, hb, rfl, hallows⟩
  · simp [decodeFrom, step, hallows] at h

theorem exists_inside {bits more : Nat} {limit : Limit} {bytes : List UInt8}
    (h : none ∉ decodeFrom (.inside bits limit (more + 1)) bytes) :
    ∃ b rest, b < 64 ∧ bytes = continuation b :: rest ∧ limit.allows (continuation b) = true ∧
      none ∉ decodeFrom (.inside (bits * 64 + b) .free more) rest := by
  obtain ⟨b, rest, hb, rfl, hallows⟩ := exists_allowed h
  refine ⟨b, rest, hb, rfl, hallows, ?_⟩
  simpa [decodeFrom, step_continuation more hb hallows] using h

theorem exists_inside_last {bits : Nat} {limit : Limit} {bytes : List UInt8}
    (h : none ∉ decodeFrom (.inside bits limit 0) bytes) :
    ∃ b rest, b < 64 ∧ bytes = continuation b :: rest ∧ limit.allows (continuation b) = true ∧
      none ∉ decode rest := by
  obtain ⟨b, rest, hb, rfl, hallows⟩ := exists_allowed h
  refine ⟨b, rest, hb, rfl, hallows, ?_⟩
  simpa [decodeFrom, decode, step_continuation_last hb hallows] using h

theorem of_limitOfThree_allows {a b : Nat} (hb : b < 64)
    (h : (limitOfThree a).allows (continuation b) = true) :
    (a = 0 → 32 ≤ b) ∧ (a = 13 → b < 32) := by
  rw [allows_continuation b hb] at h
  constructor <;> rintro rfl <;> simpa [limitOfThree] using h

theorem of_limitOfFour_allows {a b : Nat} (hb : b < 64)
    (h : (limitOfFour a).allows (continuation b) = true) : (a = 0 → 16 ≤ b) ∧ (a = 4 → b < 16) := by
  rw [allows_continuation b hb] at h
  constructor <;> rintro rfl <;> simpa [limitOfFour] using h

/-- What is read without a gap begins with the bytes of a character. -/
theorem exists_char {byte : UInt8} {bytes : List UInt8} (h : none ∉ decode (byte :: bytes)) :
    ∃ c rest, byte :: bytes = String.utf8EncodeChar c ++ rest ∧ none ∉ decode rest := by
  have hstep : none ∉ (start byte).1 ++ decodeFrom (start byte).2 bytes := h
  obtain ⟨hread, hnext⟩ := not_or.1 (mt List.mem_append.2 hstep)
  rcases exists_lead hread with ⟨a, ha, rfl⟩ | ⟨a, ha, ha', rfl⟩ | ⟨a, ha, rfl⟩ | ⟨a, ha, rfl⟩
  · rw [start_one a ha] at hnext
    exact ⟨_, bytes, by rw [utf8EncodeChar_one ha]; rfl, hnext⟩
  · rw [start_two a ha ha'] at hnext
    obtain ⟨b, rest, hb, rfl, -, hrest⟩ := exists_inside_last hnext
    exact ⟨_, rest, by rw [utf8EncodeChar_two ha' ha hb]; rfl, hrest⟩
  · rw [start_three a ha] at hnext
    obtain ⟨b, _, hb, rfl, hallows, hnext⟩ := exists_inside hnext
    obtain ⟨c, rest, hc, rfl, -, hrest⟩ := exists_inside_last hnext
    obtain ⟨hshort, hsurrogate⟩ := of_limitOfThree_allows hb hallows
    exact ⟨_, rest, by rw [utf8EncodeChar_three ha hb hc hshort hsurrogate]; rfl, hrest⟩
  · rw [start_four a ha] at hnext
    obtain ⟨b, _, hb, rfl, hallows, hnext⟩ := exists_inside hnext
    obtain ⟨c, _, hc, rfl, -, hnext⟩ := exists_inside hnext
    obtain ⟨d, rest, hd, rfl, -, hrest⟩ := exists_inside_last hnext
    obtain ⟨hshort, hbeyond⟩ := of_limitOfFour_allows hb hallows
    exact ⟨_, rest, by rw [utf8EncodeChar_four ha hb hc hd hshort hbeyond]; rfl, hrest⟩

/-- What is read without a gap are the bytes of a text. -/
theorem exists_eq_encode {bytes : List UInt8} (h : none ∉ decode bytes) :
    ∃ text, bytes = encode text := by
  induction hlength : bytes.length using Nat.strongRecOn generalizing bytes with
  | _ n ih =>
    rcases bytes with _ | ⟨byte, bytes⟩
    · exact ⟨[], rfl⟩
    obtain ⟨c, rest, hsplit, hrest⟩ := exists_char h
    have hshorter : rest.length < n := by
      have := congrArg List.length hsplit
      have := String.length_utf8EncodeChar c
      have := c.utf8Size_pos
      simp only [List.length_append] at *
      omega
    obtain ⟨text, rfl⟩ := ih _ hshorter hrest rfl
    exact ⟨c :: text, by rw [hsplit, encode, encode, List.flatMap_cons]⟩

/-- **Bytes are valid UTF-8 if and only if they are read without a gap.** -/
theorem isValidUTF8_iff {bytes : List UInt8} :
    bytes.toByteArray.IsValidUTF8 ↔ none ∉ decode bytes := by
  constructor
  · rintro ⟨text, h⟩
    obtain rfl : bytes = encode text := by
      simpa [List.utf8Encode, encode] using congrArg (·.data.toList) h
    simp [decode_encode]
  · intro h
    obtain ⟨text, rfl⟩ := exists_eq_encode h
    exact ⟨text, rfl⟩

theorem replacement_mem_decodeLossy {bytes : List UInt8} (h : ¬ bytes.toByteArray.IsValidUTF8) :
    '\uFFFD' ∈ decodeLossy bytes := by
  rw [isValidUTF8_iff, not_not] at h
  exact List.mem_map_of_mem h

end Utf8

end StackCalculator.Text
