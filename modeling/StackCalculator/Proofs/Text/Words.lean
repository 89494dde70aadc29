import StackCalculator.Proofs.Text.Lowercase

/-!
# Trimming, words, and normalising twice

Trimming leaves a text that neither begins nor ends with a blank (`IsTrimmed`) and does nothing to
such a text.  Since lower-casing neither makes nor unmakes blanks, it keeps texts trimmed, and so a
text that is normalised — trimmed, then put into lower case — is not changed by being normalised
once more: `normalize_normalize`.

The words of a trimmed text are found by looking for blanks inside it.  All that is ever asked is
whether there are exactly two of them, and `words_eq_pair_iff` says what such a text looks like.
-/

set_option autoImplicit false

namespace StackCalculator.Text

/-! ## Trimmed texts -/

/-- The text neither begins nor ends with a blank. -/
structure IsTrimmed (text : List Char) : Prop where
  /-- The first character is not a blank. -/
  head : ∀ c, text.head? = some c → isBlank c = false
  /-- The last character is not a blank. -/
  last : ∀ c, text.getLast? = some c → isBlank c = false

theorem trimEnd_eq_rdropWhile (text : List Char) : trimEnd text = text.rdropWhile isBlank := rfl

theorem isTrimmed_trim (text : List Char) : IsTrimmed (trim text) := by
  constructor
  · intro c hc
    obtain ⟨rest, hrest⟩ : trim text <+: text.dropWhile isBlank := List.rdropWhile_prefix isBlank _
    have hhead : (text.dropWhile isBlank).head? = some c := by
      rw [← hrest, List.head?_append, hc, Option.some_or]
    have := List.head?_dropWhile_not isBlank text
    rwa [hhead] at this
  · intro c hc
    have hne : trim text ≠ [] := by
      intro hnil
      rw [hnil] at hc
      exact absurd hc nofun
    obtain rfl : (trim text).getLast hne = c := by
      rw [List.getLast?_eq_some_getLast hne] at hc
      exact Option.some.inj hc
    exact Bool.eq_false_iff.2 (List.rdropWhile_last_not isBlank (text.dropWhile isBlank) hne)

theorem IsTrimmed.trim_eq {text : List Char} (h : IsTrimmed text) : trim text = text := by
  have hstart : text.dropWhile isBlank = text := by
    cases text with
    | nil => rfl
    | cons c rest => exact List.dropWhile_cons_of_neg (by simp [h.head c rfl])
  rw [trim, hstart, trimEnd_eq_rdropWhile, List.rdropWhile_eq_self_iff]
  intro hne
  simp [h.last _ (List.getLast?_eq_some_getLast hne)]

/-! ## Lower-casing trimmed texts -/

theorem Lowered.eq_nil_iff {text result : List Char} (h : Lowered text result) :
    result = [] ↔ text = [] := by
  cases h with
  | nil => rfl
  | cons hc _ => simp [hc.ne_nil]

theorem Lowered.exists_form_of_head {text result : List Char} (h : Lowered text result) {x : Char}
    (hx : result.head? = some x) : ∃ c forms, text.head? = some c ∧ Form c forms ∧ x ∈ forms := by
  cases h with
  | nil => exact absurd hx nofun
  | @cons c forms text result hc _ =>
    obtain ⟨y, ys, rfl⟩ := List.exists_cons_of_ne_nil hc.ne_nil
    obtain rfl : y = x := Option.some.inj hx
    exact ⟨c, _, rfl, hc, List.mem_cons_self⟩

theorem Lowered.exists_form_of_last {text result : List Char} (h : Lowered text result) {x : Char}
    (hx : result.getLast? = some x) :
    ∃ c forms, text.getLast? = some c ∧ Form c forms ∧ x ∈ forms := by
  induction h with
  | nil => exact absurd hx nofun
  | @cons c forms text result hc htext ih =>
    cases htext with
    | nil =>
      rw [List.append_nil] at hx
      exact ⟨c, forms, rfl, hc, List.mem_of_getLast? hx⟩
    | @cons c' forms' text' result' hc' htext' =>
      have hne : forms' ++ result' ≠ [] := by simp [hc'.ne_nil]
      rw [List.getLast?_append_of_ne_nil _ hne] at hx
      obtain ⟨d, forms'', hd, hform, hmem⟩ := ih hx
      exact ⟨d, forms'', by rw [List.getLast?_cons_cons, hd], hform, hmem⟩

theorem Lowered.isTrimmed {text result : List Char} (h : Lowered text result)
    (htrimmed : IsTrimmed text) : IsTrimmed result := by
  constructor
  · intro x hx
    obtain ⟨c, forms, hc, hform, hmem⟩ := h.exists_form_of_head hx
    exact hform.isBlank_eq_false (htrimmed.head c hc) hmem
  · intro x hx
    obtain ⟨c, forms, hc, hform, hmem⟩ := h.exists_form_of_last hx
    exact hform.isBlank_eq_false (htrimmed.last c hc) hmem

theorem normalize_eq_nil_iff {text : List Char} : normalize text = [] ↔ trim text = [] :=
  (lowered_lowercase (trim text)).eq_nil_iff

/-- **Normalising twice is normalising once.** -/
theorem normalize_normalize (text : List Char) : normalize (normalize text) = normalize text := by
  have htrimmed : IsTrimmed (normalize text) :=
    (lowered_lowercase (trim text)).isTrimmed (isTrimmed_trim text)
  rw [normalize, htrimmed.trim_eq, normalize, lowercase_lowercase]

/-! ## Words -/

/-- A word: some characters, none of them a blank. -/
structure IsWord (word : List Char) : Prop where
  /-- There is a character. -/
  ne_nil : word ≠ []
  /-- None is a blank. -/
  not_blank : ∀ c ∈ word, isBlank c = false

theorem words_append_cons (text rest : List Char) {c : Char} (hc : isBlank c = true) :
    words (text ++ c :: rest) = words text ++ words rest := by
  rw [words, List.splitOnP_append_cons text rest hc, List.filter_append]
  rfl

theorem IsWord.words_eq {word : List Char} (h : IsWord word) : words word = [word] := by
  rw [words, List.splitOnP_eq_singleton h.not_blank]
  simp [h.ne_nil]

theorem words_append_of_blank {blanks : List Char} (h : ∀ c ∈ blanks, isBlank c = true)
    (text : List Char) : words (blanks ++ text) = words text := by
  induction blanks with
  | nil => rfl
  | cons c blanks ih =>
    obtain ⟨hc, hblanks⟩ := List.forall_mem_cons.1 h
    rw [List.cons_append, ← List.nil_append (c :: _), words_append_cons _ _ hc, ih hblanks,
      words_nil, List.nil_append]

/-- A text that does not begin with a blank begins with its first word, which ends with the text or
before a blank. -/
theorem exists_first_word {text : List Char} (hne : text ≠ [])
    (hhead : ∀ c, text.head? = some c → isBlank c = false) :
    ∃ word, IsWord word ∧ (text = word ∨
      ∃ c rest, isBlank c = true ∧ text = word ++ c :: rest ∧ words text = word :: words rest) := by
  have hword : IsWord (text.takeWhile (! isBlank ·)) := by
    constructor
    · obtain ⟨c, rest, rfl⟩ := List.exists_cons_of_ne_nil hne
      rw [List.takeWhile_cons_of_pos (by simp [hhead c rfl])]
      exact List.cons_ne_nil _ _
    · intro c hc
      simpa using List.mem_takeWhile_imp hc
  have hsplit := List.takeWhile_append_dropWhile (p := (! isBlank ·)) (l := text)
  refine ⟨_, hword, ?_⟩
  cases hrest : text.dropWhile (! isBlank ·) with
  | nil =>
    rw [hrest, List.append_nil] at hsplit
    exact .inl hsplit.symm
  | cons c rest =>
    have hc : isBlank c = true := by
      have := List.head?_dropWhile_not (! isBlank ·) text
      rw [hrest] at this
      simpa using this
    rw [hrest] at hsplit
    refine .inr ⟨c, rest, hc, hsplit.symm, ?_⟩
    rw [← List.singleton_append, ← hword.words_eq, ← words_append_cons _ _ hc, hsplit]

/-- Leading blanks aside, a text begins with a word, unless it is all blanks. -/
theorem exists_blanks_append (text : List Char) :
    ∃ blanks rest, (∀ c ∈ blanks, isBlank c = true) ∧ text = blanks ++ rest ∧
      ∀ c, rest.head? = some c → isBlank c = false := by
  refine ⟨text.takeWhile isBlank, text.dropWhile isBlank, fun c hc => List.mem_takeWhile_imp hc,
    List.takeWhile_append_dropWhile.symm, fun c hc => ?_⟩
  have := List.head?_dropWhile_not isBlank text
  rwa [hc] at this

theorem words_eq_nil_iff {text : List Char} : words text = [] ↔ ∀ c ∈ text, isBlank c = true := by
  constructor
  · intro h
    obtain ⟨blanks, rest, hblanks, rfl, hhead⟩ := exists_blanks_append text
    rw [words_append_of_blank hblanks] at h
    obtain rfl : rest = [] := by
      by_contra hne
      obtain ⟨word, hword, rfl | ⟨c, rest', -, -, hwords⟩⟩ := exists_first_word hne hhead
      · rw [hword.words_eq] at h
        exact absurd h nofun
      · rw [h] at hwords
        exact absurd hwords nofun
    rwa [List.append_nil]
  · intro h
    rw [← List.append_nil text, words_append_of_blank h, words_nil]

/-- **A trimmed text has two words** exactly if it consists of these with blanks in between. -/
theorem words_eq_pair_iff {text v w : List Char} (h : IsTrimmed text) :
    words text = [v, w] ↔
      ∃ blanks, blanks ≠ [] ∧ (∀ c ∈ blanks, isBlank c = true) ∧ IsWord v ∧ IsWord w ∧
        text = v ++ blanks ++ w := by
  constructor
  · intro hwords
    have hne : text ≠ [] := by
      rintro rfl
      exact absurd hwords nofun
    obtain ⟨v', hv, rfl | ⟨c, rest, hc, rfl, hrest⟩⟩ := exists_first_word hne h.head
    · rw [hv.words_eq] at hwords
      exact absurd hwords nofun
    · rw [hwords] at hrest
      obtain ⟨rfl, hw⟩ := List.cons.inj hrest
      obtain ⟨blanks, tail, hblanks, rfl, hhead⟩ := exists_blanks_append rest
      rw [words_append_of_blank hblanks] at hw
      have htail : tail ≠ [] := by
        rintro rfl
        exact absurd hw nofun
      have hblanks' : ∀ d ∈ c :: blanks, isBlank d = true := List.forall_mem_cons.2 ⟨hc, hblanks⟩
      obtain ⟨w', hw', rfl | ⟨d, rest', hd, rfl, hrest'⟩⟩ := exists_first_word htail hhead
      · rw [hw'.words_eq] at hw
        obtain ⟨rfl, -⟩ := List.cons.inj hw
        exact ⟨c :: blanks, List.cons_ne_nil _ _, hblanks', hv, hw', by simp⟩
      · -- blanks after the second word would be at the end of the text
        rw [← hw] at hrest'
        obtain ⟨-, hnil⟩ := List.cons.inj hrest'
        have hend : ∀ e ∈ d :: rest', isBlank e = true :=
          List.forall_mem_cons.2 ⟨hd, words_eq_nil_iff.1 hnil.symm⟩
        have hsplit : v ++ c :: (blanks ++ (w' ++ d :: rest')) =
            (v ++ c :: (blanks ++ w')) ++ d :: rest' := by simp
        rw [hsplit] at h
        have hlast := h.last ((d :: rest').getLast (List.cons_ne_nil d rest')) (by
          rw [List.getLast?_append_of_ne_nil _ (List.cons_ne_nil d rest'),
            List.getLast?_eq_some_getLast])
        rw [hend _ (List.getLast_mem _)] at hlast
        exact absurd hlast nofun
  · rintro ⟨blanks, hne, hblanks, hv, hw, rfl⟩
    obtain ⟨c, blanks, rfl⟩ := List.exists_cons_of_ne_nil hne
    obtain ⟨hc, hblanks⟩ := List.forall_mem_cons.1 hblanks
    rw [List.append_assoc, List.cons_append, words_append_cons _ _ hc, hv.words_eq,
      words_append_of_blank hblanks, hw.words_eq, List.singleton_append]

end StackCalculator.Text
