import StackCalculator.Double.Decimal
import Mathlib.Data.List.TakeWhile

/-!
# The grammar of decimal texts

`Decimal.parse?` splits a text with `takeWhile` and looks at what is left.  This file says the same
without a procedure: `Spells text d` means that `text` is made of a sign, digits and a point in one
of the three permitted ways, and that `d` is what it denotes.  `Decimal.parse?_eq_some_iff` — **the
reader accepts exactly the texts of the grammar**, and returns the number they spell.

The signs, the point and the digits have neighbouring codes, from 43 to 57.  That is all that other
proofs need to know about the alphabet of decimal texts: `Spells.codes`.
-/

set_option autoImplicit false

namespace StackCalculator.Decimal

/-! ## The grammar -/

/-- Nothing but digits, and possibly none. -/
def Digits (text : List Char) : Prop := ∀ c ∈ text, c.isDigit = true

/-- A text is the integer part `whole` and the fractional part `fraction` of a number. -/
inductive SpellsParts : List Char → List Char → List Char → Prop
  /-- Digits, and no point. -/
  | integer {whole : List Char} (hne : whole ≠ []) (hwhole : Digits whole) :
      SpellsParts whole whole []
  /-- Digits, a point, and possibly more digits. -/
  | point {whole fraction : List Char} (hne : whole ≠ []) (hwhole : Digits whole)
      (hfraction : Digits fraction) : SpellsParts (whole ++ '.' :: fraction) whole fraction
  /-- A point and digits. -/
  | fraction {fraction : List Char} (hne : fraction ≠ []) (hfraction : Digits fraction) :
      SpellsParts ('.' :: fraction) [] fraction

/-- An optional sign, and whether it is a minus. -/
inductive SpellsSign : List Char → Bool → Prop
  | none : SpellsSign [] false
  | plus : SpellsSign ['+'] false
  | minus : SpellsSign ['-'] true

/-- A text spells a decimal number. -/
inductive Spells : List Char → Decimal → Prop
  | intro {sign text whole fraction : List Char} {negative : Bool}
      (hsign : SpellsSign sign negative) (hparts : SpellsParts text whole fraction) :
      Spells (sign ++ text) (ofDigits negative whole fraction)

/-! ## The alphabet -/

theorem Digits.codes {text : List Char} (h : Digits text) :
    ∀ c ∈ text, 43 ≤ c.toNat ∧ c.toNat ≤ 57 := by
  intro c hc
  have hrange := Char.isDigit_iff_toNat.1 (h c hc)
  simp at hrange
  omega

theorem SpellsParts.codes {text whole fraction : List Char} (h : SpellsParts text whole fraction) :
    ∀ c ∈ text, 43 ≤ c.toNat ∧ c.toNat ≤ 57 := by
  have hpoint : 43 ≤ '.'.toNat ∧ '.'.toNat ≤ 57 := by decide
  cases h with
  | integer _ hwhole => exact hwhole.codes
  | point _ hwhole hfraction =>
    exact List.forall_mem_append.2
      ⟨hwhole.codes, List.forall_mem_cons.2 ⟨hpoint, hfraction.codes⟩⟩
  | fraction _ hfraction => exact List.forall_mem_cons.2 ⟨hpoint, hfraction.codes⟩

theorem Spells.codes {text : List Char} {d : Decimal} (h : Spells text d) :
    ∀ c ∈ text, 43 ≤ c.toNat ∧ c.toNat ≤ 57 := by
  obtain ⟨hsign, hparts⟩ := h
  refine List.forall_mem_append.2 ⟨?_, hparts.codes⟩
  cases hsign <;> simp

theorem SpellsParts.ne_nil {text whole fraction : List Char} (h : SpellsParts text whole fraction) :
    text ≠ [] := by
  cases h with
  | integer hne _ => exact hne
  | point hne _ _ => simp
  | fraction hne _ => simp

theorem Spells.ne_nil {text : List Char} {d : Decimal} (h : Spells text d) : text ≠ [] := by
  obtain ⟨-, hparts⟩ := h
  simp [hparts.ne_nil]

/-! ## The sign -/

theorem exists_sign (text : List Char) :
    ∃ sign, SpellsSign sign (takeSign text).1 ∧ text = sign ++ (takeSign text).2 := by
  rw [takeSign.eq_def]
  split
  · exact ⟨['-'], .minus, rfl⟩
  · exact ⟨['+'], .plus, rfl⟩
  · exact ⟨[], .none, rfl⟩

/-- What has an integer and a fractional part does not begin with a sign. -/
theorem takeSign_of_spellsParts {text whole fraction : List Char}
    (h : SpellsParts text whole fraction) : takeSign text = (false, text) := by
  have hdigit : ∀ word rest : List Char, word ≠ [] → Digits word →
      takeSign (word ++ rest) = (false, word ++ rest) := by
    intro word rest hne hword
    obtain ⟨c, word, rfl⟩ := List.exists_cons_of_ne_nil hne
    have hc := hword c List.mem_cons_self
    rw [List.cons_append, takeSign.eq_def]
    split
    · rename_i heq
      obtain ⟨rfl, -⟩ := List.cons.inj heq
      exact absurd hc (by decide)
    · rename_i heq
      obtain ⟨rfl, -⟩ := List.cons.inj heq
      exact absurd hc (by decide)
    · rfl
  cases h with
  | integer hne hwhole => simpa using hdigit text [] hne hwhole
  | point hne hwhole _ => exact hdigit _ _ hne hwhole
  | fraction => rfl

theorem takeSign_append {sign text whole fraction : List Char} {negative : Bool}
    (hsign : SpellsSign sign negative) (hparts : SpellsParts text whole fraction) :
    takeSign (sign ++ text) = (negative, text) := by
  cases hsign with
  | none => exact takeSign_of_spellsParts hparts
  | plus => rfl
  | minus => rfl

/-! ## The digits -/

theorem parseUnsigned?_of_spellsParts {text whole fraction : List Char} (negative : Bool)
    (h : SpellsParts text whole fraction) :
    parseUnsigned? negative text = some (ofDigits negative whole fraction) := by
  cases h with
  | integer hne hwhole =>
    have htake : text.takeWhile Char.isDigit = text := List.takeWhile_eq_self_iff.2 hwhole
    have hdrop : text.dropWhile Char.isDigit = [] := List.dropWhile_eq_nil_iff.2 hwhole
    simp [parseUnsigned?, htake, hdrop, hne]
  | point hne hwhole hfraction =>
    have htake : (whole ++ '.' :: fraction).takeWhile Char.isDigit = whole := by
      rw [List.takeWhile_append_of_pos hwhole, List.takeWhile_cons_of_neg (by decide),
        List.append_nil]
    have hdrop : (whole ++ '.' :: fraction).dropWhile Char.isDigit = '.' :: fraction := by
      rw [List.dropWhile_append_of_pos hwhole, List.dropWhile_cons_of_neg (by decide)]
    have hall : fraction.all Char.isDigit = true := List.all_eq_true.2 hfraction
    simp [parseUnsigned?, htake, hdrop, hall, hne]
  | fraction hne hfraction =>
    have htake : ('.' :: fraction).takeWhile Char.isDigit = [] :=
      List.takeWhile_cons_of_neg (by decide)
    have hdrop : ('.' :: fraction).dropWhile Char.isDigit = '.' :: fraction :=
      List.dropWhile_cons_of_neg (by decide)
    have hall : fraction.all Char.isDigit = true := List.all_eq_true.2 hfraction
    simp [parseUnsigned?, htake, hdrop, hall, hne]

theorem exists_parts_of_parseUnsigned? {negative : Bool} {text : List Char} {d : Decimal}
    (h : parseUnsigned? negative text = some d) :
    ∃ whole fraction, SpellsParts text whole fraction ∧ d = ofDigits negative whole fraction := by
  have hsplit := List.takeWhile_append_dropWhile (p := Char.isDigit) (l := text)
  have hwhole : Digits (text.takeWhile Char.isDigit) := fun c hc => List.mem_takeWhile_imp hc
  simp only [parseUnsigned?] at h
  split at h
  · rename_i hdrop
    rw [hdrop, List.append_nil] at hsplit
    split at h
    · exact absurd h nofun
    · rename_i hne
      rw [hsplit] at hne hwhole h
      exact ⟨text, [], .integer hne hwhole, (Option.some.inj h).symm⟩
  · rename_i fraction hdrop
    rw [hdrop] at hsplit
    split at h
    · rename_i hcond
      obtain ⟨hall, hsome⟩ := Bool.and_eq_true_iff.1 hcond
      have hfraction : Digits fraction := List.all_eq_true.1 hall
      refine ⟨_, fraction, ?_, (Option.some.inj h).symm⟩
      by_cases hnil : text.takeWhile Char.isDigit = []
      · rw [hnil] at hsplit hsome ⊢
        rw [← hsplit]
        exact .fraction (by simpa using hsome) hfraction
      · have hparts := SpellsParts.point hnil hwhole hfraction
        rwa [hsplit] at hparts
    · exact absurd h nofun
  · exact absurd h nofun

theorem parse?_eq_parseUnsigned? (text : List Char) :
    parse? text = parseUnsigned? (takeSign text).1 (takeSign text).2 := rfl

/-- **The reader accepts exactly the texts of the grammar.** -/
theorem parse?_eq_some_iff {text : List Char} {d : Decimal} :
    parse? text = some d ↔ Spells text d := by
  constructor
  · intro h
    rw [parse?_eq_parseUnsigned?] at h
    obtain ⟨sign, hsign, htext⟩ := exists_sign text
    obtain ⟨whole, fraction, hparts, rfl⟩ := exists_parts_of_parseUnsigned? h
    have hspells := Spells.intro hsign hparts
    rwa [← htext] at hspells
  · rintro ⟨hsign, hparts⟩
    rw [parse?_eq_parseUnsigned?, takeSign_append hsign hparts]
    exact parseUnsigned?_of_spellsParts _ hparts

theorem parse?_eq_none_iff {text : List Char} : parse? text = none ↔ ¬ ∃ d, Spells text d := by
  simp only [← parse?_eq_some_iff, Option.eq_none_iff_forall_ne_some, not_exists, ne_eq]

end StackCalculator.Decimal
