import Mathlib
import StackCalculator.Text.Lowercase

/-!
# What lower-casing can and cannot do

Lower-casing is a table of some two hundred runs of letters together with the rules for `İ` and for
the capital sigma.  This file extracts from it what other proofs need to know, so that nobody else
looks at the table or at what stands around a sigma.

The table as a whole is consulted for five facts, each settled by a computation: `runs_isValidChar`,
`runs_of_ge`, `runs_avoid_blanks`, `runs_avoid_runs` and `runs_avoid_dotted`.  The rest works with
`Form c forms` — the character `c` can become `forms`, wherever it stands — and with
`Lowered text result`, which says that each character of a text becomes one of its forms.

* `Form.of_lt`, `Form.of_ge` — an ASCII character becomes its ASCII lower-case letter; any other
  character becomes something with a character outside ASCII in it, or else the letter `k` (the
  kelvin sign does).
* `Form.eq_of_isBlank`, `Form.isBlank_eq_false` — blanks stay what they are, and nothing else
  becomes a blank.
* `lowercase_lowercase` — **lower-casing twice is lower-casing once**.
* `lowercase_eq_iff`, `Lowered.prefix_iff` — **which texts become a given one, or one that begins
  with a given word**, as far as these are made of ASCII letters that nothing else turns into.
-/

set_option autoImplicit false

namespace StackCalculator.Text

/-! ## Characters and their codes -/

/-- What `Char.toLower`, which knows ASCII only, does to the code of a character. -/
theorem toNat_toLower (c : Char) :
    c.toLower.toNat = if 65 ≤ c.toNat ∧ c.toNat ≤ 90 then c.toNat + 32 else c.toNat := by
  have hiff : (c.val ≥ 'A'.val ∧ c.val ≤ 'Z'.val) ↔ 65 ≤ c.toNat ∧ c.toNat ≤ 90 := by
    simp only [ge_iff_le, UInt32.le_iff_toNat_le]
    rfl
  rw [Char.toLower]
  by_cases h : c.val ≥ 'A'.val ∧ c.val ≤ 'Z'.val
  · have hrange := hiff.1 h
    rw [dif_pos h, if_pos hrange, Char.toNat_mk, UInt32.toNat_add]
    simp
    omega
  · rw [dif_neg h, if_neg (mt hiff.2 h)]

theorem toLower_of_ge {c : Char} (h : 0x80 ≤ c.toNat) : c.toLower = c := by
  rw [← Char.toNat_inj, toNat_toLower, if_neg (by omega)]

theorem toNat_toLower_lt {c : Char} (h : c.toNat < 0x80) : c.toLower.toNat < 0x80 := by
  rw [toNat_toLower]
  split <;> omega

/-! ## What the tables guarantee -/

/-- The code that the last capital of a run is mapped to. -/
def CaseRun.lastImage (run : CaseRun) : Nat := run.image + (run.last - run.first)

/-- Whether it is plain from the ends of the runs, or from parity, that no letter that the one run
maps to is a capital of the other. -/
def CaseRun.avoids (run other : CaseRun) : Bool :=
  run.lastImage.blt other.first || other.last.blt run.image ||
    (other.step == 2 && (run.step == 2 || run.first == run.last) &&
      (run.image + other.first) % 2 == 1)

theorem runs_isValidChar : ∀ run ∈ lowercaseRuns,
    run.lastImage < 0xD800 ∨ (0xE000 ≤ run.image ∧ run.lastImage < 0x110000) := by
  decide +kernel

/-- The kelvin sign is the only capital outside ASCII with a lower-case letter in ASCII. -/
theorem runs_of_ge : ∀ run ∈ lowercaseRuns, 0x80 ≤ run.last →
    0x80 ≤ run.first ∧
      (0x80 ≤ run.image ∨ (run.first = run.last ∧ run.image = 'k'.toNat)) := by
  decide +kernel

theorem runs_avoid_blanks : ∀ run ∈ lowercaseRuns, ∀ range ∈ blankRanges,
    (run.last < range.1 ∨ range.2 < run.first) ∧
      (run.lastImage < range.1 ∨ range.2 < run.image) := by
  decide +kernel

theorem runs_avoid_runs :
    (lowercaseRuns.all fun run => lowercaseRuns.all fun other => run.avoids other) = true := by
  decide +kernel

/-- No capital is mapped to `İ`, which is a capital itself but not in the table. -/
theorem runs_avoid_dotted : ∀ run ∈ lowercaseRuns,
    run.lastImage < 'İ'.toNat ∨ 'İ'.toNat < run.image := by
  decide +kernel

theorem CaseRun.contains_iff {run : CaseRun} {code : Nat} :
    run.contains code = true ↔
      run.first ≤ code ∧ code ≤ run.last ∧ (code - run.first) % run.step = 0 := by
  simp only [CaseRun.contains, Bool.and_eq_true, decide_eq_true_eq, beq_iff_eq, and_assoc]

theorem CaseRun.not_contains_of_avoids {run other : CaseRun} {code : Nat}
    (h : run.avoids other = true) (hcode : run.contains code = true) :
    other.contains (run.image + (code - run.first)) = false := by
  rw [CaseRun.contains_iff] at hcode
  rw [Bool.eq_false_iff]
  intro hother
  rw [CaseRun.contains_iff] at hother
  simp only [CaseRun.avoids, CaseRun.lastImage, Bool.or_eq_true, Bool.and_eq_true, Nat.blt_eq,
    beq_iff_eq] at h
  rcases h with (h | h) | ⟨⟨h, hstep | hsingle⟩, hodd⟩
  · omega
  · omega
  · rw [hstep] at hcode
    rw [h] at hother
    omega
  · rw [h] at hother
    omega

/-! ## The forms of a character -/

/-- The character can become these characters in lower case, wherever it stands. -/
def Form (c : Char) (forms : List Char) : Prop :=
  forms = lowercaseChar c ∨ (c = 'Σ' ∧ forms = ['ς'])

/-- The one case analysis of the definition: ASCII, the letter `İ`, a letter of the table, and the
characters that have no lower case. -/
theorem lowercaseChar_cases (c : Char) :
    (c.toNat < 0x80 ∧ lowercaseChar c = [c.toLower]) ∨
    (c = 'İ' ∧ lowercaseChar c = ['i', '\u0307']) ∨
    (0x80 ≤ c.toNat ∧ ∃ run ∈ lowercaseRuns, run.contains c.toNat = true ∧
      ∃ x : Char, x.toNat = run.image + (c.toNat - run.first) ∧ lowercaseChar c = [x]) ∨
    (0x80 ≤ c.toNat ∧ c ≠ 'İ' ∧ (∀ run ∈ lowercaseRuns, run.contains c.toNat = false) ∧
      lowercaseChar c = [c]) := by
  by_cases hascii : c.toNat < 0x80
  · exact .inl ⟨hascii, by rw [lowercaseChar, if_pos hascii]⟩
  have hge : 0x80 ≤ c.toNat := Nat.le_of_not_lt hascii
  by_cases hdotted : c = 'İ'
  · exact .inr (.inl ⟨hdotted, by rw [lowercaseChar, if_neg hascii, if_pos hdotted]⟩)
  cases hrun : lowercaseRuns.find? (·.contains c.toNat) with
  | none =>
    refine .inr (.inr (.inr ⟨hge, hdotted, fun run hmem => ?_,
      by rw [lowercaseChar, if_neg hascii, if_neg hdotted, hrun]⟩))
    simpa using List.find?_eq_none.1 hrun run hmem
  | some run =>
    have hmem : run ∈ lowercaseRuns := List.mem_of_find?_eq_some hrun
    have hcontains : run.contains c.toNat = true := by simpa using List.find?_some hrun
    obtain ⟨hfirst, hlast, -⟩ := CaseRun.contains_iff.1 hcontains
    have hvalid : (run.image + (c.toNat - run.first)).isValidChar := by
      have := runs_isValidChar run hmem
      simp only [CaseRun.lastImage] at this
      rw [Nat.isValidChar]
      omega
    exact .inr (.inr (.inl ⟨hge, run, hmem, hcontains, _, by rw [Char.toNat_ofNat, if_pos hvalid],
      by rw [lowercaseChar, if_neg hascii, if_neg hdotted, hrun]⟩))

namespace Form

theorem ne_nil {c : Char} {forms : List Char} (h : Form c forms) : forms ≠ [] := by
  rcases h with rfl | ⟨-, rfl⟩
  · rcases lowercaseChar_cases c with ⟨-, h⟩ | ⟨-, h⟩ | ⟨-, _, -, -, _, -, h⟩ | ⟨-, -, -, h⟩ <;>
      exact h ▸ List.cons_ne_nil _ _
  · exact List.cons_ne_nil _ _

theorem of_lt {c : Char} {forms : List Char} (h : Form c forms) (hc : c.toNat < 0x80) :
    forms = [c.toLower] := by
  rcases h with rfl | ⟨rfl, -⟩
  · rw [lowercaseChar, if_pos hc]
  · exact absurd hc (by decide)

theorem of_ge {c : Char} {forms : List Char} (h : Form c forms) (hc : 0x80 ≤ c.toNat) :
    forms = ['k'] ∨ forms = ['i', '\u0307'] ∨ ∃ x : Char, 0x80 ≤ x.toNat ∧ forms = [x] := by
  rcases h with rfl | ⟨-, rfl⟩
  · rcases lowercaseChar_cases c with
      ⟨hlt, -⟩ | ⟨-, h⟩ | ⟨-, run, hmem, hcontains, x, hx, h⟩ | ⟨hge, -, -, h⟩
    · omega
    · exact .inr (.inl h)
    · obtain ⟨hfirst, hlast, -⟩ := CaseRun.contains_iff.1 hcontains
      obtain ⟨-, himage | ⟨hsingle, himage⟩⟩ := runs_of_ge run hmem (by omega)
      · exact .inr (.inr ⟨x, by omega, h⟩)
      · have hk : x = 'k' := by rw [← Char.toNat_inj]; omega
        exact .inl (by rw [h, hk])
    · exact .inr (.inr ⟨c, hge, h⟩)
  · exact .inr (.inr ⟨'ς', by decide, rfl⟩)

/-- A character that is in no run, and is none of the two special cases, has one form: itself. -/
theorem eq_singleton {c : Char} {forms : List Char} (h : Form c forms) (hc : c.toLower = c)
    (hdotted : c ≠ 'İ') (hruns : ∀ run ∈ lowercaseRuns, run.contains c.toNat = false) :
    forms = [c] := by
  rcases h with rfl | ⟨rfl, -⟩
  · rcases lowercaseChar_cases c with
      ⟨-, h⟩ | ⟨h, -⟩ | ⟨-, run, hmem, hcontains, -⟩ | ⟨-, -, -, h⟩
    · rw [h, hc]
    · exact absurd h hdotted
    · exact absurd hcontains (by rw [hruns run hmem]; exact Bool.false_ne_true)
    · exact h
  · have hsigma : (lowercaseRuns.any fun run => run.contains 'Σ'.toNat) = true := by decide +kernel
    obtain ⟨run, hmem, hcontains⟩ := List.any_eq_true.1 hsigma
    exact absurd hcontains (by rw [hruns run hmem]; exact Bool.false_ne_true)

/-- **A form has no other form than itself.** -/
theorem eq_of_mem {c x : Char} {forms forms' : List Char} (h : Form c forms) (hx : x ∈ forms)
    (hforms' : Form x forms') : forms' = [x] := by
  rcases h with rfl | ⟨-, rfl⟩
  · rcases lowercaseChar_cases c with
      ⟨hlt, h⟩ | ⟨-, h⟩ | ⟨hge, run, hmem, hcontains, y, hy, h⟩ | ⟨hge, hdotted, hruns, h⟩
    · obtain rfl : x = c.toLower := by simpa [h] using hx
      rw [hforms'.of_lt (toNat_toLower_lt hlt), Char.toLower_toLower_eq_toLower]
    · have : x = 'i' ∨ x = '\u0307' := by simpa [h] using hx
      rcases this with rfl | rfl
      · exact hforms'.of_lt (by decide)
      · exact hforms'.eq_singleton (by decide) (by decide) (by decide +kernel)
    · obtain rfl : x = y := by simpa [h] using hx
      have houtside : ∀ other ∈ lowercaseRuns, other.contains x.toNat = false := by
        intro other hother
        rw [hy]
        have havoids :=
          List.all_eq_true.1 (List.all_eq_true.1 runs_avoid_runs run hmem) other hother
        exact CaseRun.not_contains_of_avoids havoids hcontains
      obtain ⟨hfirst, hlast, -⟩ := CaseRun.contains_iff.1 hcontains
      have hlower : x.toLower = x := by
        obtain ⟨-, himage | ⟨hsingle, himage⟩⟩ := runs_of_ge run hmem (by omega)
        · exact toLower_of_ge (by omega)
        · obtain rfl : x = 'k' := by rw [← Char.toNat_inj]; omega
          decide
      refine hforms'.eq_singleton hlower ?_ houtside
      rintro rfl
      have := runs_avoid_dotted run hmem
      simp only [CaseRun.lastImage] at this
      omega
    · obtain rfl : x = c := by simpa [h] using hx
      exact hforms'.eq_singleton (toLower_of_ge hge) hdotted hruns
  · obtain rfl : x = 'ς' := by simpa using hx
    exact hforms'.eq_singleton (by decide) (by decide) (by decide +kernel)

end Form

/-! ## Blanks -/

theorem isBlank_iff {c : Char} :
    isBlank c = true ↔ ∃ range ∈ blankRanges, range.1 ≤ c.toNat ∧ c.toNat ≤ range.2 := by
  simp only [isBlank, isIn, List.any_eq_true, Bool.and_eq_true, decide_eq_true_eq]

/-- There is no blank between two codes that no range of blanks comes near. -/
theorem isBlank_eq_false_of_between {low high : Nat}
    (h : ∀ range ∈ blankRanges, range.2 < low ∨ high < range.1) {c : Char}
    (hc : low ≤ c.toNat ∧ c.toNat ≤ high) : isBlank c = false := by
  rw [Bool.eq_false_iff]
  intro hblank
  obtain ⟨range, hrange, hlow, hhigh⟩ := isBlank_iff.1 hblank
  have := h range hrange
  omega

theorem isBlank_eq_false_of_letter {c : Char} (h : 65 ≤ c.toNat ∧ c.toNat ≤ 122) :
    isBlank c = false :=
  isBlank_eq_false_of_between (by decide) h

theorem toLower_of_isBlank {c : Char} (h : isBlank c = true) : c.toLower = c := by
  rw [← Char.toNat_inj, toNat_toLower, if_neg]
  intro hletter
  rw [isBlank_eq_false_of_letter (by omega)] at h
  exact absurd h Bool.false_ne_true

theorem isBlank_toLower (c : Char) : isBlank c.toLower = isBlank c := by
  by_cases hletter : 65 ≤ c.toNat ∧ c.toNat ≤ 90
  · have := toNat_toLower c
    rw [if_pos hletter] at this
    rw [isBlank_eq_false_of_letter (by omega), isBlank_eq_false_of_letter (by omega)]
  · congr 1
    rw [← Char.toNat_inj, toNat_toLower, if_neg hletter]

namespace Form

theorem eq_of_isBlank {c : Char} {forms : List Char} (h : Form c forms) (hc : isBlank c = true) :
    forms = [c] := by
  obtain ⟨range, hrange, hlow, hhigh⟩ := isBlank_iff.1 hc
  refine h.eq_singleton (toLower_of_isBlank hc) ?_ ?_
  · rintro rfl
    exact absurd hc (by decide)
  · intro run hmem
    rw [Bool.eq_false_iff]
    intro hcontains
    obtain ⟨hfirst, hlast, -⟩ := CaseRun.contains_iff.1 hcontains
    have := (runs_avoid_blanks run hmem range hrange).1
    omega

theorem isBlank_eq_false {c x : Char} {forms : List Char} (h : Form c forms)
    (hc : isBlank c = false) (hx : x ∈ forms) : isBlank x = false := by
  rcases h with rfl | ⟨-, rfl⟩
  · rcases lowercaseChar_cases c with
      ⟨hlt, h⟩ | ⟨-, h⟩ | ⟨hge, run, hmem, hcontains, y, hy, h⟩ | ⟨hge, hdotted, hruns, h⟩
    · obtain rfl : x = c.toLower := by simpa [h] using hx
      rw [isBlank_toLower, hc]
    · have : x = 'i' ∨ x = '\u0307' := by simpa [h] using hx
      rcases this with rfl | rfl <;> decide
    · obtain rfl : x = y := by simpa [h] using hx
      rw [Bool.eq_false_iff]
      intro hblank
      obtain ⟨range, hrange, hlow, hhigh⟩ := isBlank_iff.1 hblank
      obtain ⟨hfirst, hlast, -⟩ := CaseRun.contains_iff.1 hcontains
      have := (runs_avoid_blanks run hmem range hrange).2
      simp only [CaseRun.lastImage] at this
      omega
    · obtain rfl : x = c := by simpa [h] using hx
      exact hc
  · obtain rfl : x = 'ς' := by simpa using hx
    decide

end Form

/-! ## The forms of a text -/

/-- Each character of the text becomes one of its forms. -/
inductive Lowered : List Char → List Char → Prop
  | nil : Lowered [] []
  | cons {c : Char} {forms text result : List Char} (hc : Form c forms)
      (htext : Lowered text result) : Lowered (c :: text) (forms ++ result)

theorem lowered_lowercaseAfter (before text : List Char) :
    Lowered text (lowercaseAfter before text) := by
  induction text generalizing before with
  | nil => exact .nil
  | cons c text ih =>
    refine .cons ?_ (ih (c :: before))
    split
    · rename_i hsigma
      split
      · exact .inr ⟨hsigma, rfl⟩
      · exact .inl (by subst hsigma; decide +kernel)
    · exact .inl rfl

theorem lowered_lowercase (text : List Char) : Lowered text (lowercase text) :=
  lowered_lowercaseAfter [] text

namespace Lowered

/-- Every character of the result is a form of a character of the text. -/
theorem exists_form_of_mem {text result : List Char} (h : Lowered text result) {x : Char}
    (hx : x ∈ result) : ∃ c ∈ text, ∃ forms, Form c forms ∧ x ∈ forms := by
  induction h with
  | nil => exact absurd hx List.not_mem_nil
  | @cons c forms text result hc _ ih =>
    rcases List.mem_append.1 hx with hx | hx
    · exact ⟨c, List.mem_cons_self, forms, hc, hx⟩
    · obtain ⟨c', hc', hforms⟩ := ih hx
      exact ⟨c', List.mem_cons_of_mem _ hc', hforms⟩

/-- All forms of a character of the text go into the result. -/
theorem exists_form_of_mem_text {text result : List Char} (h : Lowered text result) {c : Char}
    (hc : c ∈ text) : ∃ forms, Form c forms ∧ ∀ x ∈ forms, x ∈ result := by
  induction h with
  | nil => exact absurd hc List.not_mem_nil
  | @cons c' forms text result hc' _ ih =>
    rcases List.mem_cons.1 hc with rfl | hc
    · exact ⟨forms, hc', fun x hx => List.mem_append_left _ hx⟩
    · obtain ⟨forms', hforms', hmem⟩ := ih hc
      exact ⟨forms', hforms', fun x hx => List.mem_append_right _ (hmem x hx)⟩

/-- If each character of a text has one form only, a single character, then the result is made of
these. -/
theorem eq_map {text result : List Char} (h : Lowered text result) {f : Char → Char}
    (hf : ∀ c ∈ text, ∀ forms, Form c forms → forms = [f c]) : result = text.map f := by
  induction h with
  | nil => rfl
  | @cons c forms text result hc _ ih =>
    rw [hf c List.mem_cons_self forms hc, ih fun c' hc' => hf c' (List.mem_cons_of_mem _ hc'),
      List.map_cons, List.singleton_append]

end Lowered

/-- **Lower-casing twice is lower-casing once.** -/
theorem lowercase_lowercase (text : List Char) : lowercase (lowercase text) = lowercase text := by
  have hsettled : ∀ x ∈ lowercase text, ∀ forms, Form x forms → forms = [id x] := by
    intro x hx forms hforms
    obtain ⟨c, -, forms', hc, hmem⟩ := (lowered_lowercase text).exists_form_of_mem hx
    exact hc.eq_of_mem hmem hforms
  rw [(lowered_lowercase (lowercase text)).eq_map hsettled, List.map_id]

/-- On ASCII characters and blanks, lower-casing is lower-casing ASCII letters. -/
theorem lowercase_eq_map_toLower {text : List Char}
    (h : ∀ c ∈ text, c.toNat < 0x80 ∨ isBlank c = true) :
    lowercase text = text.map Char.toLower := by
  refine (lowered_lowercase text).eq_map fun c hc forms hforms => ?_
  rcases h c hc with hlt | hblank
  · exact hforms.of_lt hlt
  · rw [hforms.eq_of_isBlank hblank, toLower_of_isBlank hblank]

/-- **A result of ASCII characters and blanks comes from such characters**, unless it has a `k` in
it, which might come from a kelvin sign. -/
theorem ascii_or_isBlank_of_lowercase {text : List Char}
    (h : ∀ x ∈ lowercase text, (x.toNat < 0x80 ∧ x ≠ 'k') ∨ isBlank x = true) :
    ∀ c ∈ text, c.toNat < 0x80 ∨ isBlank c = true := by
  intro c hc
  rcases Nat.lt_or_ge c.toNat 0x80 with hlt | hge
  · exact .inl hlt
  cases hblank : isBlank c with
  | true => exact .inr rfl
  | false =>
  exfalso
  obtain ⟨forms, hforms, hmem⟩ := (lowered_lowercase text).exists_form_of_mem_text hc
  rcases hforms.of_ge hge with rfl | rfl | ⟨x, hx, rfl⟩
  · exact absurd (h 'k' (hmem 'k' (by simp))) (by decide)
  · exact absurd (h '\u0307' (hmem '\u0307' (by simp))) (by decide)
  · have hxblank : isBlank x = false := hforms.isBlank_eq_false hblank (by simp)
    rcases h x (hmem x (by simp)) with ⟨hlt, -⟩ | hx'
    · omega
    · rw [hxblank] at hx'
      exact absurd hx' Bool.false_ne_true

/-- **Which texts become a given one**, if that is made of ASCII characters and blanks and has no
`k` in it: those that do so when nothing but ASCII letters changes. -/
theorem lowercase_eq_iff {text result : List Char}
    (h : ∀ x ∈ result, (x.toNat < 0x80 ∧ x ≠ 'k') ∨ isBlank x = true) :
    lowercase text = result ↔ text.map Char.toLower = result := by
  constructor
  · rintro rfl
    exact (lowercase_eq_map_toLower (ascii_or_isBlank_of_lowercase h)).symm
  · rintro rfl
    refine lowercase_eq_map_toLower fun c hc => ?_
    rcases h c.toLower (List.mem_map_of_mem hc) with ⟨hlt, -⟩ | hblank
    · exact .inl (by have := toNat_toLower c; split at this <;> omega)
    · exact .inr (by rwa [isBlank_toLower] at hblank)

/-- A text in lower case begins with a word, one without `i` and `k`, exactly if the text itself
begins with the word up to the case of ASCII letters. -/
theorem Lowered.prefix_iff {text result word : List Char} (h : Lowered text result)
    (hword : ∀ x ∈ word, x.toNat < 0x80 ∧ x ≠ 'i' ∧ x ≠ 'k') :
    word <+: result ↔ ∃ start rest, text = start ++ rest ∧ start.map Char.toLower = word := by
  induction word generalizing text result with
  | nil => exact ⟨fun _ => ⟨[], text, rfl, rfl⟩, fun _ => List.nil_prefix⟩
  | cons x word ih =>
    obtain ⟨⟨hlt, hi, hk⟩, hword⟩ := List.forall_mem_cons.1 hword
    cases h with
    | nil =>
      refine ⟨fun hprefix => absurd hprefix (by simp), ?_⟩
      rintro ⟨start, rest, hnil, hstart⟩
      obtain ⟨rfl, -⟩ := List.append_eq_nil_iff.1 hnil.symm
      exact absurd hstart nofun
    | @cons c forms text result hc htext =>
      rcases Nat.lt_or_ge c.toNat 0x80 with hascii | hge
      · rw [hc.of_lt hascii, List.singleton_append, List.cons_prefix_cons, ih htext hword]
        constructor
        · rintro ⟨rfl, start, rest, rfl, hstart⟩
          exact ⟨c :: start, rest, rfl, by rw [List.map_cons, hstart]⟩
        · rintro ⟨start, rest, hsplit, hstart⟩
          obtain ⟨c', start, rfl, hx, hmap⟩ := List.map_eq_cons_iff.1 hstart
          obtain ⟨rfl, rfl⟩ := List.cons.inj hsplit
          exact ⟨hx.symm, start, rest, rfl, hmap⟩
      · -- such a character begins with none of the letters of the word, in neither text
        constructor
        · intro hprefix
          rcases hc.of_ge hge with rfl | rfl | ⟨y, hy, rfl⟩
          · exact absurd (List.cons_prefix_cons.1 hprefix).1 hk
          · exact absurd (List.cons_prefix_cons.1 hprefix).1 hi
          · obtain ⟨rfl, -⟩ := List.cons_prefix_cons.1 hprefix
            omega
        · rintro ⟨start, rest, hsplit, hstart⟩
          obtain ⟨c', start, rfl, hx, -⟩ := List.map_eq_cons_iff.1 hstart
          obtain ⟨rfl, -⟩ := List.cons.inj hsplit
          rw [toLower_of_ge hge] at hx
          rw [hx] at hge
          omega

end StackCalculator.Text
