import StackCalculator.Proofs.Double.Notation
import StackCalculator.Proofs.Session.Endings

/-!
# Reading a listing back

`print` writes the values of the stack in brackets.  This file is the way back: `Double.read?` reads
the text of one value, and `readListing?` cuts a listing at its commas and reads what stands between
them.  Both are correct because of how doubles are shown, and not of how their digits are found, so
`Double.read?_of_shown` starts from `Double.Shown`.

* `readListing?_listing` — every listing can be read back, and what is read are the values of the
  stack.
* `Double.ofBits_eq_ofBits_iff` — which of the 2⁶⁴ bit patterns are the same value.

`Session.print_is_faithful` puts these together with what `print` does: **the listing determines the
stack, and every value in it is shown by the shortest decimal that is read as this value.**
-/

set_option autoImplicit false

namespace StackCalculator

open Decimal (Digits SpellsParts)

/-! ## Numbers with an exponent -/

/-- Read a decimal without a sign, which may have an exponent. -/
def Scientific.read? (text : List Char) : Option Scientific := do
  let mantissa ← Decimal.parseUnsigned? false (text.takeWhile (· != 'e'))
  let exponent ← match text.dropWhile (· != 'e') with
    | [] => some 0
    | _ :: exponent => (String.ofList exponent).toInt?
  some ⟨mantissa.coefficient, exponent - mantissa.places⟩

/-- Read the text of a double. -/
def Double.read? (text : List Char) : Option Double :=
  let (negative, rest) := Decimal.takeSign text
  match Scientific.read? rest with
  | some x => some (.signed negative x.toMagnitude)
  | none =>
    if rest = "inf".toList then some (.signed negative .infinity)
    else if text = "NaN".toList then some .nan
    else none

/-- The texts of the values in a listing. -/
def elements (listing : List Char) : List (List Char) :=
  (((listing.drop 1).dropLast.splitOn ',').map Text.trim).filter (! ·.isEmpty)

/-- Read a listing. -/
def readListing? (listing : String) : Option (List Double) :=
  (elements listing.toList).mapM Double.read?

namespace Scientific

section

variable {whole fraction : List Char} (hwhole : Digits whole) (hne : whole ≠ [])
  (hfraction : Digits fraction)

include hwhole hne hfraction

theorem ne_e_of_mem_pointed : ∀ c ∈ pointed whole fraction, (c != 'e') = true := by
  intro c hc
  have hcode := (spellsParts_pointed hwhole hne hfraction).codes c hc
  rw [bne_iff_ne]
  rintro rfl
  exact absurd hcode (by decide)

theorem read?_pointed :
    read? (pointed whole fraction) =
      some ⟨Nat.ofDigitChars 10 (whole ++ fraction) 0, 0 - fraction.length⟩ := by
  have hmantissa := ne_e_of_mem_pointed hwhole hne hfraction
  rw [read?, List.takeWhile_eq_self_iff.2 hmantissa, List.dropWhile_eq_nil_iff.2 hmantissa,
    Decimal.parseUnsigned?_of_spellsParts false (spellsParts_pointed hwhole hne hfraction)]
  rfl

theorem read?_pointed_append (e : ℤ) :
    read? (pointed whole fraction ++ 'e' :: (toString e).toList) =
      some ⟨Nat.ofDigitChars 10 (whole ++ fraction) 0, e - fraction.length⟩ := by
  have hmantissa := ne_e_of_mem_pointed hwhole hne hfraction
  have htake : (pointed whole fraction ++ 'e' :: (toString e).toList).takeWhile (· != 'e') =
      pointed whole fraction := by
    rw [List.takeWhile_append_of_pos hmantissa, List.takeWhile_cons_of_neg (by decide),
      List.append_nil]
  have hdrop : (pointed whole fraction ++ 'e' :: (toString e).toList).dropWhile (· != 'e') =
      'e' :: (toString e).toList := by
    rw [List.dropWhile_append_of_pos hmantissa, List.dropWhile_cons_of_neg (by decide)]
  rw [read?, htake, hdrop,
    Decimal.parseUnsigned?_of_spellsParts false (spellsParts_pointed hwhole hne hfraction)]
  simp only [Option.bind_eq_bind, Option.bind_some, String.ofList_toList, Int.toString_eq_repr,
    Int.toInt?_repr]
  rfl

end

theorem toRat_digits (whole fraction : List Char) (e : ℤ) :
    (mk (Nat.ofDigitChars 10 (whole ++ fraction) 0) (e - fraction.length)).toRat =
      digitsValue whole fraction * 10 ^ e := by
  rw [toRat, digitsValue, zpow_sub₀ (by norm_num), zpow_natCast]
  ring

/-- A number that is written without an exponent is read as this number. -/
theorem exists_read?_of_plainForm {q : ℚ} {text : List Char} (h : PlainForm q text) :
    ∃ x, read? text = some x ∧ x.toRat = q := by
  obtain ⟨hwhole, hfraction, hvalue⟩ := h
  refine ⟨_, read?_pointed hwhole.digits hwhole.ne_nil hfraction.digits, ?_⟩
  rw [toRat_digits, zpow_zero, mul_one, hvalue]

/-- A number that is written with an exponent is read as this number. -/
theorem exists_read?_of_exponentForm {q : ℚ} {text : List Char} (h : ExponentForm q text) :
    ∃ x, read? text = some x ∧ x.toRat = q := by
  obtain ⟨hd, -, hfraction, -, hvalue⟩ := h
  refine ⟨_, read?_pointed_append (by simpa [Digits]) (List.cons_ne_nil _ _) hfraction _, ?_⟩
  rw [toRat_digits, hvalue]

end Scientific

/-! ## Doubles -/

/-- A text that begins with a digit keeps it when a sign is taken off. -/
theorem takeSign_of_isDigit (negative : Bool) {c : Char} (h : c.isDigit = true) (text : List Char) :
    Decimal.takeSign ((if negative then ['-'] else []) ++ c :: text) = (negative, c :: text) := by
  cases negative with
  | true => rfl
  | false =>
    rw [if_neg Bool.false_ne_true, List.nil_append, Decimal.takeSign.eq_def]
    split
    · rename_i heq
      obtain ⟨rfl, -⟩ := List.cons.inj heq
      exact absurd h (by decide)
    · rename_i heq
      obtain ⟨rfl, -⟩ := List.cons.inj heq
      exact absurd h (by decide)
    · rfl

theorem PlainForm.exists_digit {q : ℚ} {text : List Char} (h : PlainForm q text) :
    ∃ c rest, text = c :: rest ∧ c.isDigit = true := by
  obtain @⟨whole, fraction, hwhole, -, -⟩ := h
  obtain ⟨c, rest, rfl⟩ := List.exists_cons_of_ne_nil hwhole.ne_nil
  exact ⟨c, _, List.cons_append, hwhole.digits c List.mem_cons_self⟩

theorem ExponentForm.exists_digit {q : ℚ} {text : List Char} (h : ExponentForm q text) :
    ∃ c rest, text = c :: rest ∧ c.isDigit = true := by
  obtain ⟨hd, -, -, -, -⟩ := h
  exact ⟨_, _, rfl, hd⟩

namespace Double

/-- A decimal that begins with a digit is read after the sign in front of it. -/
theorem read?_of_isShortest (negative : Bool) {m : Magnitude} {x y : Scientific} {text : List Char}
    (hx : m.IsShortest x) (hdigit : ∃ c rest, text = c :: rest ∧ c.isDigit = true)
    (hread : Scientific.read? text = some y) (hvalue : y.toRat = x.toRat) :
    read? ((if negative then ['-'] else []) ++ text) = some (.signed negative m) := by
  obtain ⟨c, rest, rfl, hc⟩ := hdigit
  have hmagnitude : y.toMagnitude = m :=
    Scientific.toMagnitude_eq_of_between hx.reads_back hx.reads_back hvalue.ge hvalue.le
  simp only [read?, takeSign_of_isDigit negative hc, hread, hmagnitude]

/-- **A text shows one double only**, which is the one that is read. -/
theorem read?_of_shown {x : Double} {text : List Char} (h : x.Shown text) :
    read? text = some x := by
  cases h with
  | nan => rfl
  | infinity negative => cases negative <;> rfl
  | plain _ hx htext =>
    obtain ⟨y, hread, hvalue⟩ := Scientific.exists_read?_of_plainForm htext
    exact read?_of_isShortest _ hx htext.exists_digit hread hvalue
  | exponent _ _ hx htext =>
    obtain ⟨y, hread, hvalue⟩ := Scientific.exists_read?_of_exponentForm htext
    exact read?_of_isShortest _ hx htext.exists_digit hread hvalue

theorem Shown.ne_nil {x : Double} {text : List Char} (h : x.Shown text) : text ≠ [] := by
  rintro rfl
  have hnone : read? [] = none := rfl
  rw [read?_of_shown h] at hnone
  exact absurd hnone nofun

end Double

/-! ## Listings -/

theorem toList_listing (values : List Double) :
    (Double.listing values).toList =
      '[' :: ", ".toList.intercalate (values.map Double.text) ++ [']'] := by
  have htext : (String.toList ∘ toString : Double → List Char) = Double.text :=
    funext fun x => String.toList_ofList
  rw [Double.listing, String.toList_append, String.toList_append, String.toList_intercalate,
    List.map_map, htext]
  rfl

/-- A comma and a blank between texts are commas between texts that begin with a blank. -/
theorem intercalate_comma_blank (text : List Char) (texts : List (List Char)) :
    ", ".toList.intercalate (text :: texts) =
      [','].intercalate (text :: texts.map (' ' :: ·)) := by
  induction texts generalizing text with
  | nil => rfl
  | cons next texts ih =>
    rw [List.intercalate_cons_cons, ih, List.map_cons, List.intercalate_cons_cons]
    cases texts with
    | nil => simp
    | cons other texts => simp

theorem isBlank_eq_false_of_isPrintable {c : Char} (h : IsPrintable c) : Text.isBlank c = false :=
  Text.isBlank_eq_false_of_between (by decide) h

theorem isTrimmed_of_isPrintable {text : List Char} (h : ∀ c ∈ text, IsPrintable c) :
    Text.IsTrimmed text where
  head c hc := isBlank_eq_false_of_isPrintable (h c (List.mem_of_head? hc))
  last c hc := isBlank_eq_false_of_isPrintable (h c (List.mem_of_getLast? hc))

theorem not_comma_mem_of_isPrintable {text : List Char} (h : ∀ c ∈ text, IsPrintable c) :
    ',' ∉ text := by
  intro hmem
  exact absurd (h ',' hmem).1 (by decide)

/-- The elements of a listing are the texts of the values. -/
theorem elements_listing (values : List Double) :
    elements (Double.listing values).toList = values.map Double.text := by
  have htexts : ∀ text ∈ values.map Double.text, (∀ c ∈ text, IsPrintable c) ∧ text ≠ [] := by
    intro text htext
    obtain ⟨x, -, rfl⟩ := List.mem_map.1 htext
    exact ⟨x.shown_text.isPrintable, x.shown_text.ne_nil⟩
  rw [elements, toList_listing]
  generalize values.map Double.text = texts at htexts
  rw [List.cons_append, List.drop_one, List.tail_cons, List.dropLast_concat]
  cases texts with
  | nil => rfl
  | cons text texts =>
    have htrim : ∀ t ∈ text :: texts, Text.trim t = t := fun t ht =>
      (isTrimmed_of_isPrintable (htexts t ht).1).trim_eq
    have hcomma : ∀ t ∈ text :: texts.map (' ' :: ·), ',' ∉ t := by
      refine List.forall_mem_cons.2
        ⟨not_comma_mem_of_isPrintable (htexts text List.mem_cons_self).1, fun t ht => ?_⟩
      obtain ⟨t, hmem, rfl⟩ := List.mem_map.1 ht
      have hnot := not_comma_mem_of_isPrintable (htexts t (List.mem_cons_of_mem _ hmem)).1
      simpa using hnot
    have hblank : ∀ t ∈ texts, Text.trim (' ' :: t) = t := fun t ht => by
      have hdrop : Text.trim (' ' :: t) = Text.trim t := by
        rw [Text.trim, List.dropWhile_cons_of_pos (by decide), ← Text.trim]
      rw [hdrop, htrim t (List.mem_cons_of_mem _ ht)]
    have hmap : (text :: texts.map (' ' :: ·)).map Text.trim = text :: texts := by
      rw [List.map_cons, htrim text List.mem_cons_self, List.map_map]
      exact congrArg (text :: ·) ((List.map_congr_left hblank).trans (List.map_id _))
    rw [intercalate_comma_blank, List.splitOn_intercalate _ hcomma (List.cons_ne_nil _ _), hmap,
      List.filter_eq_self]
    intro t ht
    simp [(htexts t ht).2]

/-- **Every listing can be read back.** -/
theorem readListing?_listing (s : Stack) : readListing? s.listing = some s.values := by
  rw [readListing?, Stack.listing, elements_listing, List.mapM_map]
  generalize s.values = values
  induction values with
  | nil => rfl
  | cons x values ih =>
    rw [List.mapM_cons, ih, Function.comp_apply, Double.read?_of_shown x.shown_text]
    rfl

theorem listing_eq_listing_iff {s t : Stack} : s.listing = t.listing ↔ s.values = t.values := by
  refine ⟨fun h => ?_, congrArg Double.listing⟩
  have hread := readListing?_listing s
  rw [h, readListing?_listing] at hread
  exact (Option.some.inj hread).symm

/-! ## Bit patterns -/

/-- The bit patterns that are not numbers. -/
def Double.IsNaNPattern (bits : UInt64) : Prop := Magnitude.infinityRank < bits.toNat % 2 ^ 63

/-- Different bit patterns are different values, except that there is one NaN only. -/
theorem Double.ofBits_eq_ofBits_iff {bits bits' : UInt64} :
    Double.ofBits bits = Double.ofBits bits' ↔
      bits = bits' ∨ IsNaNPattern bits ∧ IsNaNPattern bits' := by
  have hlt := bits.toNat_lt
  have hlt' := bits'.toNat_lt
  rw [← UInt64.toNat_inj]
  simp only [ofBits, IsNaNPattern]
  split_ifs with h h'
  · simp only [Double.signed.injEq, Magnitude.mk.injEq, decide_eq_decide]
    omega
  · simp only [false_iff]
    omega
  · simp only [false_iff]
    omega
  · simp only [true_iff]
    omega

namespace Session

variable {δ : Type} [Destination δ]

theorem out_settle (s : Session δ) (effect : Effect) (events : List Event) :
    (s.settle effect events).session.out =
      match effect with
      | .print listing => (Destination.writeLine s.out listing).2
      | .none | .quit => s.out := by
  cases effect with
  | none | quit => rfl
  | print listing =>
    simp only [settle]
    split <;> rename_i hwrite <;> rw [hwrite]

/-- What is written in a session is the listing of the stack, when a line asks for it. -/
theorem out_feed (s : Session δ) (line : String) :
    (s.feed line).session.out =
      if isCommand .print line then (Destination.writeLine s.out s.calculator.stack.listing).2
      else s.out := by
  by_cases hblank : Text.trim line.toList = []
  · rw [s.feed_of_blank hblank, isCommand_of_blank hblank]
    rfl
  · rw [s.feed_of_not_blank hblank, out_settle, effect_execute_eq]
    split_ifs <;> rfl

/-- Where nothing fails, the bytes of the listing and a line feed are added to what was written. -/
theorem contents_feed (reliable : Reliable δ) {s : Session δ} (hs : reliable.Sound s.out)
    (line : String) :
    reliable.contents (s.feed line).session.out =
      reliable.contents s.out ++
        if isCommand .print line then listingBytes s.calculator.stack.listing else [] := by
  rw [out_feed]
  split_ifs
  · obtain ⟨after, hwrite, -, hcontents⟩ := reliable.writeLine hs s.calculator.stack.listing
    rw [hwrite, hcontents]
  · exact (List.append_nil _).symm

/-- **What `print` writes is a faithful encoding of the stack.**  It writes the texts of the values
from the bottom up, in brackets, and then a line feed; no other line writes anything.  Two stacks
have the same listing exactly if they hold the same values in the same places, where different bit
patterns are different values unless both are NaNs; and there is a decoder that recovers the values
of any stack from its listing.  Each double has one text, which is that of the shortest decimal that
is read as this double: without an exponent in the plain range, and with one outside. -/
theorem print_is_faithful :
    (∀ (s : Session δ) (line : String), (s.feed line).session.out =
      if isCommand .print line then (Destination.writeLine s.out s.calculator.stack.listing).2
      else s.out) ∧
    (∀ (reliable : Reliable δ) (s : Session δ) (line : String), reliable.Sound s.out →
      reliable.contents (s.feed line).session.out =
        reliable.contents s.out ++
          if isCommand .print line then listingBytes s.calculator.stack.listing else []) ∧
    (∀ s : Stack, s.listing.toList =
      '[' :: ", ".toList.intercalate (s.values.map Double.text) ++ [']']) ∧
    (∀ s t : Stack, s.listing = t.listing ↔ s.values = t.values) ∧
    (∀ bits bits' : List UInt64,
      (Stack.ofValues (bits.map .ofBits)).listing = (Stack.ofValues (bits'.map .ofBits)).listing ↔
        List.Forall₂ (fun b b' => b = b' ∨ Double.IsNaNPattern b ∧ Double.IsNaNPattern b')
          bits bits') ∧
    (∀ s : Stack, readListing? s.listing = some s.values) ∧
    ∀ (x : Double) (text : List Char), x.Shown text ↔ text = x.text := by
  refine ⟨out_feed, fun reliable s line hs => contents_feed reliable hs line,
    fun s => toList_listing s.values, fun s t => listing_eq_listing_iff, fun bits bits' => ?_,
    readListing?_listing, fun x text => Double.shown_iff⟩
  rw [listing_eq_listing_iff, Stack.values_ofValues, Stack.values_ofValues, ← List.forall₂_eq_eq_eq,
    List.forall₂_map_left_iff, List.forall₂_map_right_iff]
  simp only [Double.ofBits_eq_ofBits_iff]

/-- Both zeros are written, and the listing before is still there. -/
theorem print_writes_both_zeros :
    let s := ((fresh Buffer.unlimited).feedLines ["0", "print", "-0"]).session
    Buffer.reliable.Sound s.out ∧
      (s.feed " Print\n").session.out.contents = "[0.0]\n[0.0, -0.0]\n".toUTF8.toList := by
  intro s
  have hsound : Buffer.reliable.Sound s.out := ⟨rfl, rfl⟩
  have hprint : isCommand .print " Print\n" = true := by decide +kernel
  have hbefore : Buffer.reliable.contents s.out = "[0.0]\n".toUTF8.toList := by decide +kernel
  have hlisting : s.calculator.stack.listing = "[0.0, -0.0]" := by decide +kernel
  have hwrites := print_is_faithful.2.1 Buffer.reliable s " Print\n" hsound
  rw [if_pos hprint, hlisting, hbefore] at hwrites
  exact ⟨hsound, hwrites.trans (by decide +kernel)⟩

end Session

end StackCalculator
