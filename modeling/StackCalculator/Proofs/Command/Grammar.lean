import StackCalculator.Command
import StackCalculator.Proofs.Double.Spelling
import StackCalculator.Proofs.Text.Words

/-!
# The grammar of lines

`Command.parse` trims a line, puts it into lower case, and asks three questions about what comes
out, one of them after cutting it into words.  Here is the same as a grammar of the text *as it was
typed*, only trimmed: `Reads text result`.  It has two ways to push a number, `Decimal.Spells` and
`SpellsPush`; a keyword has to be there `InAnyCase`, which is the case of ASCII letters and nothing
else.

* `exists_reads`, `parse_eq_iff` — the grammar has a reading for every line, and a line is read as
  the grammar says and in no other way.
* `parse_matches_grammar` — **the parser accepts exactly its grammar**, over all of Unicode.

Lower-casing is the part that is not obvious.  It does create ASCII letters from other characters:
the kelvin sign becomes a `k`, and `İ` an `i` with a combining dot.  Neither can pass for a
keyword: there is no keyword with a `k`, and the dot stays.  All of this is in
`Text.lowercase_eq_iff` and `Text.Lowered.prefix_iff`, and each of the questions is answered by one
of the two.
-/

set_option autoImplicit false

namespace StackCalculator.Command

open Text (lowercase trim isBlank words IsTrimmed IsWord)
open Decimal (Spells)

/-! ## The grammar -/

/-- The text is the word, up to the case of ASCII letters. -/
def InAnyCase (word text : List Char) : Prop := text.map Char.toLower = word

/-- The text is an explicit push: the word, one or more blanks, and a decimal text. -/
inductive SpellsPush : List Char → Decimal → Prop
  | intro {word blanks operand : List Char} {d : Decimal} (hword : InAnyCase pushWord word)
      (hne : blanks ≠ []) (hblanks : ∀ c ∈ blanks, isBlank c = true) (hoperand : Spells operand d) :
      SpellsPush (word ++ blanks ++ operand) d

/-- The text begins with the word `push`. -/
def BeginsPush (text : List Char) : Prop :=
  ∃ word rest, text = word ++ rest ∧ InAnyCase pushWord word

/-- How a trimmed line is read. -/
inductive Reads (text : List Char) : Except CommandError Command → Prop
  /-- A number pushes itself. -/
  | number {d : Decimal} (h : Spells text d) : Reads text (.ok (.push d.toDouble))
  /-- An explicit push. -/
  | push {d : Decimal} (h : SpellsPush text d) : Reads text (.ok (.push d.toDouble))
  /-- A keyword, alone. -/
  | keyword {c : Command} (hc : c ∈ bare) (h : InAnyCase c.keyword.toList text) :
      Reads text (.ok c)
  /-- A failed push. -/
  | invalidPush (hpush : BeginsPush text) (h : ¬ ∃ d, SpellsPush text d) :
      Reads text (.error .invalidPush)
  /-- Anything else, reported in lower case. -/
  | unrecognized (hnumber : ¬ ∃ d, Spells text d) (hpush : ¬ BeginsPush text)
      (hkeyword : ∀ c ∈ bare, ¬ InAnyCase c.keyword.toList text) :
      Reads text (.error (.unrecognized (String.ofList (lowercase text))))

/-- Every line is read in some way. -/
theorem exists_reads (text : List Char) : ∃ result, Reads text result := by
  by_cases hnumber : ∃ d, Spells text d
  · obtain ⟨d, hd⟩ := hnumber
    exact ⟨_, .number hd⟩
  by_cases hpush : BeginsPush text
  · by_cases hoperand : ∃ d, SpellsPush text d
    · obtain ⟨d, hd⟩ := hoperand
      exact ⟨_, .push hd⟩
    · exact ⟨_, .invalidPush hpush hoperand⟩
  by_cases hkeyword : ∃ c ∈ bare, InAnyCase c.keyword.toList text
  · obtain ⟨c, hc, h⟩ := hkeyword
    exact ⟨_, .keyword hc h⟩
  · exact ⟨_, .unrecognized hnumber hpush (by simpa using hkeyword)⟩

theorem SpellsPush.beginsPush {text : List Char} {d : Decimal} (h : SpellsPush text d) :
    BeginsPush text := by
  obtain ⟨hword, -, -, -⟩ := h
  exact ⟨_, _, List.append_assoc _ _ _, hword⟩

/-! ## Letters of keywords -/

theorem InAnyCase.ascii {word text : List Char} (h : InAnyCase word text)
    (hword : ∀ x ∈ word, x.toNat < 0x80) : ∀ c ∈ text, c.toNat < 0x80 := by
  intro c hc
  have hlower := hword c.toLower (h ▸ List.mem_map_of_mem hc)
  have hcode := Text.toNat_toLower c
  split at hcode <;> omega

theorem pushWord_letters : ∀ x ∈ pushWord, x.toNat < 0x80 ∧ x ≠ 'i' ∧ x ≠ 'k' :=
  List.all_iff_forall_prop.1 (by decide)

theorem pushWord_codes : ∀ x ∈ pushWord, 97 ≤ x.toNat := List.all_iff_forall_prop.1 (by decide)

theorem isWord_pushWord : IsWord pushWord :=
  ⟨by decide, List.all_iff_forall_prop.1 (by decide)⟩

theorem keyword_letters {c : Command} (hc : c ∈ bare) :
    ∀ x ∈ c.keyword.toList, x.toNat < 0x80 ∧ x ≠ 'k' := by
  have hall : ∀ c ∈ bare, c.keyword.toList.all (fun x => x.toNat < 0x80 ∧ x ≠ 'k') = true := by
    decide
  exact List.all_iff_forall_prop.1 (hall c hc)

theorem InAnyCase.isWord {word text : List Char} (h : InAnyCase word text)
    (hword : IsWord word) : IsWord text where
  ne_nil := by
    rintro rfl
    exact hword.ne_nil (Eq.symm h)
  not_blank c hc := by
    rw [← Text.isBlank_toLower]
    exact hword.not_blank _ (h ▸ List.mem_map_of_mem hc)

/-- A word of letters does not begin with a sign or a digit. -/
theorem not_inAnyCase_of_code {word start rest text : List Char} {c : Char}
    (hword : ∀ x ∈ word, 97 ≤ x.toNat) (hne : word ≠ []) (hc : c.toNat ≤ 57)
    (htext : c :: text = start ++ rest) : ¬ InAnyCase word start := by
  intro h
  cases start with
  | nil => exact hne (Eq.symm h)
  | cons d start =>
    obtain ⟨rfl, -⟩ := List.cons.inj htext
    have hletter : 97 ≤ c.toLower.toNat := hword _ (h ▸ List.mem_map_of_mem List.mem_cons_self)
    have hcode := Text.toNat_toLower c
    split at hcode <;> omega

theorem keyword_codes :
    ∀ c ∈ bare, c.keyword.toList ≠ [] ∧ ∀ x ∈ c.keyword.toList, 97 ≤ x.toNat := by
  have hall : ∀ c ∈ bare, c.keyword.toList ≠ [] ∧
      c.keyword.toList.all (fun x => 97 ≤ x.toNat) = true := by decide
  exact fun c hc => ⟨(hall c hc).1, List.all_iff_forall_prop.1 (hall c hc).2⟩

theorem keyword_not_beginsPush : ∀ c ∈ bare, pushWord.isPrefixOf c.keyword.toList = false := by
  decide

theorem keyword_not_decimal : ∀ c ∈ bare, Decimal.parse? c.keyword.toList = none := by decide

theorem ofKeyword?_keyword : ∀ c ∈ bare, ofKeyword? c.keyword.toList = some c := by decide

theorem ofKeyword?_eq_some_iff {word : List Char} {c : Command} :
    ofKeyword? word = some c ↔ c ∈ bare ∧ word = c.keyword.toList := by
  constructor
  · intro h
    have hkeyword : (c.keyword.toList == word) = true := by simpa using List.find?_some h
    exact ⟨List.mem_of_find?_eq_some h, (beq_iff_eq.1 hkeyword).symm⟩
  · rintro ⟨hc, rfl⟩
    exact ofKeyword?_keyword c hc

theorem lowercase_eq_keyword_iff {text : List Char} {c : Command} (hc : c ∈ bare) :
    lowercase text = c.keyword.toList ↔ InAnyCase c.keyword.toList text :=
  Text.lowercase_eq_iff fun x hx => .inl (keyword_letters hc x hx)

theorem isPrefixOf_lowercase_iff {text : List Char} :
    pushWord.isPrefixOf (lowercase text) = true ↔ BeginsPush text := by
  rw [List.isPrefixOf_iff_prefix, (Text.lowered_lowercase text).prefix_iff pushWord_letters]
  rfl

/-! ## Signs, digits and the point -/

theorem toLower_eq_iff_of_code {c x : Char} (h : 43 ≤ x.toNat ∧ x.toNat ≤ 57) :
    c.toLower = x ↔ c = x := by
  have hcode := Text.toNat_toLower c
  rw [← Char.toNat_inj, ← Char.toNat_inj]
  split at hcode <;> omega

theorem map_toLower_eq_iff {text word : List Char}
    (h : ∀ x ∈ word, 43 ≤ x.toNat ∧ x.toNat ≤ 57) : text.map Char.toLower = word ↔ text = word := by
  induction word generalizing text with
  | nil => exact List.map_eq_nil_iff
  | cons x word ih =>
    obtain ⟨hx, hword⟩ := List.forall_mem_cons.1 h
    cases text with
    | nil => simp
    | cons c text =>
      rw [List.map_cons, List.cons_eq_cons, List.cons_eq_cons, toLower_eq_iff_of_code hx, ih hword]

theorem ne_k_of_code {x : Char} (h : 43 ≤ x.toNat ∧ x.toNat ≤ 57) : x.toNat < 0x80 ∧ x ≠ 'k' := by
  refine ⟨by omega, ?_⟩
  rintro rfl
  exact absurd h (by decide)

theorem isBlank_eq_false_of_code {x : Char} (h : 43 ≤ x.toNat ∧ x.toNat ≤ 57) :
    isBlank x = false :=
  Text.isBlank_eq_false_of_between (by decide) h

theorem isWord_of_spells {text : List Char} {d : Decimal} (h : Spells text d) : IsWord text :=
  ⟨h.ne_nil, fun c hc => isBlank_eq_false_of_code (h.codes c hc)⟩

/-- Lower-casing neither makes nor spoils a decimal text. -/
theorem spells_lowercase_iff {text : List Char} {d : Decimal} :
    Spells (lowercase text) d ↔ Spells text d := by
  have hsame : ∀ {word : List Char}, (∀ x ∈ word, 43 ≤ x.toNat ∧ x.toNat ≤ 57) →
      (lowercase text = word ↔ text = word) := by
    intro word hword
    rw [Text.lowercase_eq_iff fun x hx => .inl (ne_k_of_code (hword x hx)),
      map_toLower_eq_iff hword]
  constructor
  · intro h
    have htext : text = lowercase text := (hsame h.codes).1 rfl
    rwa [← htext] at h
  · intro h
    have htext : lowercase text = text := (hsame h.codes).2 rfl
    rwa [htext]

theorem parse?_lowercase_eq_none {text : List Char} (h : ¬ ∃ d, Spells text d) :
    Decimal.parse? (lowercase text) = none := by
  rw [Decimal.parse?_eq_none_iff]
  simpa only [spells_lowercase_iff] using h

/-- What begins with `push`, whatever the case, is no decimal text. -/
theorem BeginsPush.not_spells {text : List Char} (h : BeginsPush text) : ¬ ∃ d, Spells text d := by
  rintro ⟨d, hd⟩
  obtain ⟨word, rest, htext, hword⟩ := h
  obtain ⟨c, text, rfl⟩ := List.exists_cons_of_ne_nil hd.ne_nil
  exact not_inAnyCase_of_code pushWord_codes isWord_pushWord.ne_nil
    (hd.codes c List.mem_cons_self).2 htext hword

/-! ## The explicit push -/

theorem parsePush_eq_ok_iff {text : List Char} {c : Command} :
    parsePush text = .ok c ↔
      ∃ operand d, words text = [pushWord, operand] ∧ Spells operand d ∧ c = .push d.toDouble := by
  simp only [← Decimal.parse?_eq_some_iff]
  constructor
  · intro h
    simp only [parsePush] at h
    split at h
    · rename_i word operand hwords
      split at h
      · rename_i hword
        split at h
        · rename_i d hd
          exact ⟨operand, d, by rw [hwords, hword], hd, (Except.ok.inj h).symm⟩
        · exact absurd h nofun
      · exact absurd h nofun
    · exact absurd h nofun
  · rintro ⟨operand, d, hwords, hd, rfl⟩
    simp only [parsePush, hwords, hd, if_true]

theorem parsePush_eq_error {text : List Char} (h : ∀ c, parsePush text ≠ .ok c) :
    parsePush text = .error .invalidPush := by
  revert h
  simp only [parsePush]
  repeat' split
  · exact fun h => absurd rfl (h _)
  all_goals exact fun _ => rfl

/-- A text of this form is put into lower case letter by letter, so its words stay where they
are. -/
theorem lowercase_push_eq_iff {text blanks operand : List Char} {d : Decimal}
    (hblanks : ∀ c ∈ blanks, isBlank c = true) (hoperand : Spells operand d) :
    lowercase text = pushWord ++ blanks ++ operand ↔
      text.map Char.toLower = pushWord ++ blanks ++ operand := by
  refine Text.lowercase_eq_iff (List.forall_mem_append.2 ⟨List.forall_mem_append.2 ⟨?_, ?_⟩, ?_⟩)
  · intro x hx
    obtain ⟨hlt, -, hk⟩ := pushWord_letters x hx
    exact .inl ⟨hlt, hk⟩
  · exact fun x hx => .inr (hblanks x hx)
  · exact fun x hx => .inl (ne_k_of_code (hoperand.codes x hx))

theorem words_lowercase_iff {text : List Char} {d : Decimal} (htext : IsTrimmed text) :
    (∃ operand, words (lowercase text) = [pushWord, operand] ∧ Spells operand d) ↔
      SpellsPush text d := by
  have htrimmed : IsTrimmed (lowercase text) := (Text.lowered_lowercase text).isTrimmed htext
  constructor
  · rintro ⟨operand, hwords, hoperand⟩
    obtain ⟨blanks, hne, hblanks, -, -, hsplit⟩ := (Text.words_eq_pair_iff htrimmed).1 hwords
    have hmap := (lowercase_push_eq_iff hblanks hoperand).1 hsplit
    obtain ⟨start, operand', rfl, hstart, hoperand'⟩ := List.map_eq_append_iff.1 hmap
    obtain ⟨word, blanks', rfl, hword, rfl⟩ := List.map_eq_append_iff.1 hstart
    obtain rfl := (map_toLower_eq_iff hoperand.codes).1 hoperand'
    refine .intro hword (by simpa using hne) (fun c hc => ?_) hoperand
    rw [← Text.isBlank_toLower]
    exact hblanks _ (List.mem_map_of_mem hc)
  · rintro ⟨hword, hne, hblanks, hoperand⟩
    rename_i word blanks operand
    have hmap : (word ++ blanks ++ operand).map Char.toLower = pushWord ++ blanks ++ operand := by
      have hsame : blanks.map Char.toLower = blanks :=
        (List.map_congr_left fun c hc => Text.toLower_of_isBlank (hblanks c hc)).trans
          (List.map_id blanks)
      rw [List.map_append, List.map_append, hword, hsame,
        (map_toLower_eq_iff hoperand.codes).2 rfl]
    have hsplit := (lowercase_push_eq_iff hblanks hoperand).2 hmap
    refine ⟨operand, (Text.words_eq_pair_iff htrimmed).2 ?_, hoperand⟩
    exact ⟨blanks, hne, hblanks, isWord_pushWord, isWord_of_spells hoperand, hsplit⟩

theorem parsePush_lowercase {text : List Char} {d : Decimal} (htext : IsTrimmed text)
    (h : SpellsPush text d) : parsePush (lowercase text) = .ok (.push d.toDouble) := by
  obtain ⟨operand, hwords, hoperand⟩ := (words_lowercase_iff htext).2 h
  exact parsePush_eq_ok_iff.2 ⟨operand, d, hwords, hoperand, rfl⟩

theorem parsePush_lowercase_eq_error {text : List Char} (htext : IsTrimmed text)
    (h : ¬ ∃ d, SpellsPush text d) : parsePush (lowercase text) = .error .invalidPush := by
  refine parsePush_eq_error fun c hc => ?_
  obtain ⟨operand, d, hwords, hoperand, -⟩ := parsePush_eq_ok_iff.1 hc
  exact h ⟨d, (words_lowercase_iff htext).1 ⟨operand, hwords, hoperand⟩⟩

/-! ## Lines -/

theorem parseNormalized_of_spells {text : List Char} {d : Decimal} (h : Spells text d) :
    parseNormalized (lowercase text) = .ok (.push d.toDouble) := by
  rw [parseNormalized, Decimal.parse?_eq_some_iff.2 (spells_lowercase_iff.2 h)]

theorem parseNormalized_of_beginsPush {text : List Char} (h : BeginsPush text) :
    parseNormalized (lowercase text) = parsePush (lowercase text) := by
  rw [parseNormalized, parse?_lowercase_eq_none h.not_spells]
  simp only [isPrefixOf_lowercase_iff.2 h, if_true]

theorem parseNormalized_of_keyword {text : List Char} {c : Command} (hc : c ∈ bare)
    (h : InAnyCase c.keyword.toList text) : parseNormalized (lowercase text) = .ok c := by
  rw [(lowercase_eq_keyword_iff hc).2 h, parseNormalized, keyword_not_decimal c hc]
  simp [keyword_not_beginsPush c hc, ofKeyword?_keyword c hc]

theorem parseNormalized_of_unrecognized {text : List Char} (hnumber : ¬ ∃ d, Spells text d)
    (hpush : ¬ BeginsPush text) (hkeyword : ∀ c ∈ bare, ¬ InAnyCase c.keyword.toList text) :
    parseNormalized (lowercase text) =
      .error (.unrecognized (String.ofList (lowercase text))) := by
  have hbegins : pushWord.isPrefixOf (lowercase text) = false := by
    rw [Bool.eq_false_iff]
    exact mt isPrefixOf_lowercase_iff.1 hpush
  have hnone : ofKeyword? (lowercase text) = none := by
    rw [Option.eq_none_iff_forall_ne_some]
    intro c hc
    obtain ⟨hmem, hlower⟩ := ofKeyword?_eq_some_iff.1 hc
    exact hkeyword c hmem ((lowercase_eq_keyword_iff hmem).1 hlower)
  rw [parseNormalized, parse?_lowercase_eq_none hnumber]
  simp [hbegins, hnone]

theorem parse_of_reads {line : String} {result : Except CommandError Command}
    (h : Reads (trim line.toList) result) : parse line = result := by
  have htext := Text.isTrimmed_trim line.toList
  rw [parse, Text.normalize]
  cases h with
  | number h => exact parseNormalized_of_spells h
  | push h => rw [parseNormalized_of_beginsPush h.beginsPush, parsePush_lowercase htext h]
  | keyword hc h => exact parseNormalized_of_keyword hc h
  | invalidPush hpush h =>
    rw [parseNormalized_of_beginsPush hpush, parsePush_lowercase_eq_error htext h]
  | unrecognized hnumber hpush hkeyword =>
    exact parseNormalized_of_unrecognized hnumber hpush hkeyword

/-- A line is read as the grammar says, and in no other way. -/
theorem parse_eq_iff {line : String} {result : Except CommandError Command} :
    parse line = result ↔ Reads (trim line.toList) result := by
  constructor
  · rintro rfl
    obtain ⟨result, h⟩ := exists_reads (trim line.toList)
    rwa [parse_of_reads h]
  · exact parse_of_reads

/-- What stands in an accepted line is ASCII, or a blank between `push` and its operand. -/
theorem Reads.ascii_or_isBlank {text : List Char} {c : Command} (h : Reads text (.ok c)) :
    ∀ x ∈ text, x.toNat < 0x80 ∨ isBlank x = true := by
  intro x hx
  cases h with
  | number h => exact .inl (ne_k_of_code (h.codes x hx)).1
  | push h =>
    obtain ⟨hword, -, hblanks, hoperand⟩ := h
    rcases List.mem_append.1 hx with hx | hx
    · rcases List.mem_append.1 hx with hx | hx
      · exact .inl (hword.ascii (fun y hy => (pushWord_letters y hy).1) x hx)
      · exact .inr (hblanks x hx)
    · exact .inl (ne_k_of_code (hoperand.codes x hx)).1
  | keyword hc h => exact .inl (h.ascii (fun y hy => (keyword_letters hc y hy).1) x hx)

/-- **The parser accepts exactly its grammar, over all of Unicode.**  A line pushes a number if it
is a decimal text, by itself or after `push` and blanks; it is another command if it is that
command's keyword in any case of its ASCII letters; it is a failed push if it begins with `push`
without being an explicit push.  Every other line is handed back in lower case, and no line is
accepted that has anything in it but ASCII characters and blanks. -/
theorem parse_matches_grammar (line : String) :
    (∀ v, parse line = .ok (.push v) ↔
      ∃ d, (Spells (trim line.toList) d ∨ SpellsPush (trim line.toList) d) ∧ v = d.toDouble) ∧
    (∀ c ∈ bare, parse line = .ok c ↔ InAnyCase c.keyword.toList (trim line.toList)) ∧
    (parse line = .error .invalidPush ↔
      BeginsPush (trim line.toList) ∧ ¬ ∃ d, SpellsPush (trim line.toList) d) ∧
    ((∃ c, parse line = .ok c) ∨ parse line = .error .invalidPush ∨
      parse line = .error (.unrecognized (String.ofList (lowercase (trim line.toList))))) ∧
    ∀ c, parse line = .ok c → ∀ x ∈ trim line.toList, x.toNat < 0x80 ∨ isBlank x = true := by
  simp only [parse_eq_iff]
  generalize trim line.toList = text
  refine ⟨fun v => ⟨fun h => ?_, ?_⟩, fun c hc => ⟨fun h => ?_, .keyword hc⟩, ⟨fun h => ?_, ?_⟩, ?_,
    fun c h => h.ascii_or_isBlank⟩
  · cases h with
    | number h => exact ⟨_, .inl h, rfl⟩
    | push h => exact ⟨_, .inr h, rfl⟩
    | keyword hc _ => exact absurd hc (by simp [bare])
  · rintro ⟨d, h | h, rfl⟩
    · exact .number h
    · exact .push h
  · cases h with
    | number _ => exact absurd hc (by simp [bare])
    | push _ => exact absurd hc (by simp [bare])
    | keyword _ h => exact h
  · cases h with
    | invalidPush hpush h => exact ⟨hpush, h⟩
  · rintro ⟨hpush, h⟩
    exact .invalidPush hpush h
  · obtain ⟨result, h⟩ := exists_reads text
    cases h with
    | number h => exact .inl ⟨_, .number h⟩
    | push h => exact .inl ⟨_, .push h⟩
    | keyword hc h => exact .inl ⟨_, .keyword hc h⟩
    | invalidPush hpush h => exact .inr (.inl (.invalidPush hpush h))
    | unrecognized hnumber hpush hkeyword =>
      exact .inr (.inr (.unrecognized hnumber hpush hkeyword))

theorem parse_quit_in_mixed_case : Command.quit ∈ bare ∧ parse " qUiT\u00a0" = .ok .quit :=
  ⟨by decide, ((parse_matches_grammar _).2.1 .quit (by decide)).2 rfl⟩

end StackCalculator.Command
