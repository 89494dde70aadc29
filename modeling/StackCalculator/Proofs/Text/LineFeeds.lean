import Mathlib
import StackCalculator.Text.Utf8

/-!
# Decoding a text or its lines

Bytes that are no characters become gaps wherever they stand, and a reader that meets them might be
expected to swallow the line feed after them, or to make one up.  It does neither.  That no line
feed is swallowed is `decodeFrom_append_lineFeed`.  Here it is shown that none is made up, and from
both together, that it does not matter whether a text is decoded before or after it is cut into
lines: `decodeLossy_splitOn`.

A line feed would be made up by an overlong form, such as `C0 8A`.  These are ruled out by the first
two bytes of a character, and the invariant `State.Exceeds` carries that through the bytes that
follow: the bits read so far are not all zero, or else the limit sees to it that those of the next
byte are not.
-/

set_option autoImplicit false

namespace StackCalculator.Text.Utf8

/-! ## No line feed is made up -/

/-- Whatever bytes follow, the character that was begun has a code of at least 64. -/
def State.Exceeds : State → Prop
  | .boundary => True
  | .inside bits limit more => 0 < bits ∨ (limit = .fromA0 ∨ limit = .from90) ∧ 0 < more

theorem ofNat_ne_lineFeed {n : Nat} (h : n ≠ 10) : Char.ofNat n ≠ '\n' := by
  intro heq
  have hcode : (Char.ofNat n).toNat = 10 := by rw [heq]; rfl
  rw [Char.toNat_ofNat] at hcode
  split at hcode <;> omega

theorem start_exceeds {byte : UInt8} (h : byte ≠ 10) :
    some '\n' ∉ (start byte).1 ∧ (start byte).2.Exceeds := by
  have hbyte : byte.toNat ≠ 10 := fun heq => h (UInt8.toNat_inj.1 heq)
  have hrange := byte.toNat_lt
  simp only [start, UInt8.lt_iff_toNat_lt, ← UInt8.toNat_inj]
  split
  · simp [State.Exceeds, (ofNat_ne_lineFeed hbyte).symm]
  split
  · simp [State.Exceeds]
  rename_i hlow
  simp only [Nat.not_lt, UInt8.reduceToNat] at hlow
  split
  · rename_i hhigh
    have hbits : 0 < byte.toNat % 32 := by simp only [UInt8.reduceToNat] at hhigh; omega
    exact ⟨List.not_mem_nil, .inl hbits⟩
  split
  · rename_i hmid hhigh
    simp only [UInt8.reduceToNat] at hmid hhigh
    refine ⟨List.not_mem_nil, ?_⟩
    by_cases hfirst : byte.toNat = 0xE0
    · exact .inr ⟨.inl (by simp [hfirst]), by decide⟩
    · exact .inl (by omega)
  split
  · rename_i hmid hhigh
    simp only [UInt8.reduceToNat] at hmid hhigh
    refine ⟨List.not_mem_nil, ?_⟩
    by_cases hfirst : byte.toNat = 0xF0
    · exact .inr ⟨.inr (by simp [hfirst]), by decide⟩
    · exact .inl (by omega)
  · simp [State.Exceeds]

/-- The limits that stand in for missing bits allow only bytes with bits of their own. -/
theorem pos_of_exceeds {bits more : Nat} {limit : Limit} {byte : UInt8}
    (h : (State.inside bits limit more).Exceeds) (hallows : limit.allows byte = true) :
    0 < bits * 64 + byte.toNat % 64 ∧ (more = 0 → 64 ≤ bits * 64 + byte.toNat % 64) := by
  have hrange := byte.toNat_lt
  rcases h with hbits | ⟨rfl | rfl, hmore⟩
  · omega
  · simp only [Limit.allows, Bool.and_eq_true, decide_eq_true_eq, UInt8.le_iff_toNat_le,
      UInt8.reduceToNat] at hallows
    omega
  · simp only [Limit.allows, Bool.and_eq_true, decide_eq_true_eq, UInt8.le_iff_toNat_le,
      UInt8.reduceToNat] at hallows
    omega

theorem step_exceeds {state : State} {byte : UInt8} (hstate : state.Exceeds) (h : byte ≠ 10) :
    some '\n' ∉ (step state byte).1 ∧ (step state byte).2.Exceeds := by
  obtain ⟨hread, hnext⟩ := start_exceeds h
  cases state with
  | boundary => exact ⟨hread, hnext⟩
  | inside bits limit more =>
    cases hallows : limit.allows byte with
    | false => simp [step, hallows, hread, hnext]
    | true =>
      obtain ⟨hpos, hlast⟩ := pos_of_exceeds hstate hallows
      simp only [step, hallows, if_true]
      cases more with
      | zero =>
        have hcode := hlast rfl
        have hchar : Char.ofNat (bits * 64 + byte.toNat % 64) ≠ '\n' :=
          ofNat_ne_lineFeed (by omega)
        exact ⟨by simp [proceed, hchar.symm], trivial⟩
      | succ more => exact ⟨List.not_mem_nil, .inl hpos⟩

theorem lineFeed_not_mem_decodeFrom (state : State) {bytes : List UInt8} (hstate : state.Exceeds)
    (h : 10 ∉ bytes) : some '\n' ∉ decodeFrom state bytes := by
  induction bytes generalizing state with
  | nil => cases state <;> simp [decodeFrom, State.gap]
  | cons byte bytes ih =>
    obtain ⟨hbyte, hbytes⟩ := not_or.1 (mt List.mem_cons.2 h)
    obtain ⟨hread, hnext⟩ := step_exceeds hstate (Ne.symm hbyte)
    rw [decodeFrom]
    exact List.not_mem_append hread (ih _ hnext hbytes)

/-- Bytes without a line feed stand for a text without one. -/
theorem lineFeed_not_mem_decodeLossy {bytes : List UInt8} (h : 10 ∉ bytes) :
    '\n' ∉ decodeLossy bytes := by
  intro hmem
  obtain ⟨read, hread, heq⟩ := List.mem_map.1 hmem
  cases read with
  | none => exact absurd heq (by decide)
  | some c =>
    obtain rfl : c = '\n' := heq
    exact lineFeed_not_mem_decodeFrom .boundary trivial h hread

/-! ## Lines -/

/-- **Decoding and cutting into lines can be done in either order**, whatever the bytes are. -/
theorem decodeLossy_splitOn (bytes : List UInt8) :
    (decodeLossy bytes).splitOn '\n' = (bytes.splitOn 10).map decodeLossy := by
  induction h : bytes.length using Nat.strongRecOn generalizing bytes with
  | _ n ih =>
    by_cases hmem : 10 ∈ bytes
    · obtain ⟨start, rest, rfl, hstart⟩ := List.eq_append_cons_of_mem hmem
      have hrest := ih rest.length (by simp [← h]; omega) rest rfl
      rw [decodeLossy_append_lineFeed, List.splitOn_append_cons_self_of_not_mem hstart,
        List.splitOn_append_cons_self_of_not_mem (lineFeed_not_mem_decodeLossy hstart), hrest,
        List.map_cons]
    · rw [List.splitOn_eq_singleton hmem,
        List.splitOn_eq_singleton (lineFeed_not_mem_decodeLossy hmem), List.map_singleton]

end StackCalculator.Text.Utf8
