import StackCalculator.Proofs.Command.Grammar
import StackCalculator.Proofs.Session.Destinations
import StackCalculator.Proofs.Session.Listings

/-!
# Typing back what was shown

Doubles are shown in one grammar and read in another.  Here a line has the text that is shown for a
double, by itself or after `push` (`Retypes`), and the question is what it does.

* `parse_of_retypes` — it pushes this very double if that is in the plain range, and it is refused
  otherwise.
* `Session.feedLines_map_text` — lines with the texts of values push those in the plain range, in
  their order, and do nothing for the others.

`Session.retyping_restores_plain_values` — **what is shown can be typed back exactly in the plain
range**, and so a stack is rebuilt from its listing exactly if all its values are in that range.
-/

set_option autoImplicit false

namespace StackCalculator

open Command (InAnyCase pushWord bare BeginsPush SpellsPush)
open Decimal (Spells)
open Text (isBlank trim lowercase IsWord)

/-- A trimmed line has the text of the double, by itself or as the operand of a push; and this is
the error if the line is refused. -/
inductive Retypes (x : Double) : List Char → CommandError → Prop
  | alone : Retypes x x.text (.unrecognized (String.ofList (lowercase x.text)))
  | push {word blanks : List Char} (hword : InAnyCase pushWord word) (hne : blanks ≠ [])
      (hblanks : ∀ c ∈ blanks, isBlank c = true) : Retypes x (word ++ blanks ++ x.text) .invalidPush

/-! ## Inside the plain range -/

theorem exists_spells_text {x : Double} (h : x.InPlainRange) :
    ∃ d, Spells x.text d ∧ d.toDouble = x := by
  rcases x with _ | ⟨negative, m⟩
  · exact absurd h Double.not_inPlainRange_nan
  · obtain ⟨d, hparse, hvalue⟩ := Decimal.parse?_text negative (Double.inPlainRange_signed_iff.1 h)
    exact ⟨d, Decimal.parse?_eq_some_iff.1 hparse, hvalue⟩

/-! ## Outside the plain range -/

/-- There is a letter in the text. -/
theorem Double.Shown.exists_letter {x : Double} {text : List Char} (h : x.Shown text)
    (hrange : ¬ x.InPlainRange) : ∃ c ∈ text, 57 < c.toNat := by
  cases h with
  | nan => exact ⟨'N', by simp, by decide⟩
  | infinity negative => exact ⟨'i', by simp, by decide⟩
  | plain h _ _ => exact absurd h hrange
  | exponent _ _ _ htext =>
    obtain ⟨-, -, -, -, -⟩ := htext
    exact ⟨'e', by simp, by decide⟩

theorem not_spells_text {x : Double} (h : ¬ x.InPlainRange) : ¬ ∃ d, Spells x.text d := by
  rintro ⟨d, hd⟩
  obtain ⟨c, hc, hletter⟩ := x.shown_text.exists_letter h
  have := (hd.codes c hc).2
  omega

theorem ExponentForm.head {q : ℚ} {text : List Char} (h : ExponentForm q text) (negative : Bool) :
    ∃ c rest, (if negative then ['-'] else []) ++ text = c :: rest ∧ c.toNat ≤ 57 := by
  cases negative with
  | true => exact ⟨'-', text, rfl, by decide⟩
  | false =>
    obtain ⟨c, rest, rfl, hdigit⟩ := h.exists_digit
    exact ⟨c, rest, rfl, (codes_of_isDigit hdigit).2⟩

/-- The text is no keyword and does not begin with `push`. -/
theorem Double.Shown.not_command {x : Double} {text : List Char} (h : x.Shown text)
    (hrange : ¬ x.InPlainRange) :
    ¬ BeginsPush text ∧ ∀ c ∈ bare, ¬ InAnyCase c.keyword.toList text := by
  cases h with
  | nan =>
    exact ⟨mt Command.isPrefixOf_lowercase_iff.2 (by decide +kernel),
      by simp only [InAnyCase]; decide⟩
  | infinity negative =>
    cases negative <;>
      exact ⟨mt Command.isPrefixOf_lowercase_iff.2 (by decide +kernel),
        by simp only [InAnyCase]; decide⟩
  | plain h _ _ => exact absurd h hrange
  | @exponent negative _ _ _ _ _ _ htext =>
    obtain ⟨c, rest, heq, hcode⟩ := htext.head negative
    rw [heq]
    refine ⟨?_, fun command hcommand => ?_⟩
    · rintro ⟨start, rest, hstart, hword⟩
      exact Command.not_inAnyCase_of_code Command.pushWord_codes Command.isWord_pushWord.ne_nil
        hcode hstart hword
    · obtain ⟨hne, hletters⟩ := Command.keyword_codes command hcommand
      exact Command.not_inAnyCase_of_code hletters hne hcode (List.append_nil _).symm

theorem isWord_text (x : Double) : IsWord x.text where
  ne_nil := x.shown_text.ne_nil
  not_blank c hc := isBlank_eq_false_of_isPrintable (x.shown_text.isPrintable c hc)

/-- An explicit push has one operand. -/
theorem operand_eq_of_spellsPush {word blanks operand : List Char} {d : Decimal}
    (htrimmed : Text.IsTrimmed (word ++ blanks ++ operand)) (hword : InAnyCase pushWord word)
    (hne : blanks ≠ []) (hblanks : ∀ c ∈ blanks, isBlank c = true) (hoperand : IsWord operand)
    (h : SpellsPush (word ++ blanks ++ operand) d) : Spells operand d := by
  have hwords := (Text.words_eq_pair_iff htrimmed).2
    ⟨blanks, hne, hblanks, hword.isWord Command.isWord_pushWord, hoperand, rfl⟩
  generalize word ++ blanks ++ operand = text at htrimmed hwords h
  obtain @⟨word', blanks', operand', _, hword', hne', hblanks', hoperand'⟩ := h
  have hwords' := (Text.words_eq_pair_iff htrimmed).2
    ⟨blanks', hne', hblanks', hword'.isWord Command.isWord_pushWord,
      Command.isWord_of_spells hoperand', rfl⟩
  rw [hwords'] at hwords
  obtain ⟨-, hoperands⟩ := List.cons.inj hwords
  rwa [← (List.cons.inj hoperands).1]

/-! ## Lines -/

/-- **The text of a double is read as a push of this double if it is in the plain range**, and is
refused otherwise. -/
theorem parse_of_retypes {x : Double} {line : String} {error : CommandError}
    (h : Retypes x (trim line.toList) error) :
    Command.parse line = if x.InPlainRange then .ok (.push x) else .error error := by
  refine Command.parse_of_reads ?_
  have htrimmed := Text.isTrimmed_trim line.toList
  generalize trim line.toList = text at h htrimmed
  split_ifs with hrange
  · obtain ⟨d, hd, rfl⟩ := exists_spells_text hrange
    cases h with
    | alone => exact .number hd
    | push hword hne hblanks => exact .push (.intro hword hne hblanks hd)
  · obtain ⟨hpush, hkeyword⟩ := x.shown_text.not_command hrange
    have hnumber := not_spells_text hrange
    cases h with
    | alone => exact .unrecognized hnumber hpush hkeyword
    | push hword hne hblanks =>
      refine .invalidPush ⟨_, _, List.append_assoc _ _ _, hword⟩ ?_
      rintro ⟨d, hd⟩
      exact hnumber ⟨d, operand_eq_of_spellsPush htrimmed hword hne hblanks (isWord_text x) hd⟩

theorem Calculator.execute_of_retypes (c : Calculator) {x : Double} {line : String}
    {error : CommandError} (h : Retypes x (trim line.toList) error) :
    (x.InPlainRange → (c.execute line).outcome = .done ("Pushed " ++ toString x) ∧
      (c.execute line).after = c.advance (c.stack.push x) (.push x)) ∧
    (¬ x.InPlainRange → (c.execute line).outcome = .rejected error ∧
      (c.execute line).after = c) := by
  rw [execute, parse_of_retypes h]
  refine ⟨fun hrange => ?_, fun hrange => ?_⟩
  · rw [if_pos hrange]
    exact ⟨rfl, rfl⟩
  · rw [if_neg hrange]
    exact ⟨rfl, rfl⟩

theorem retypes_text (x : Double) :
    Retypes x (trim (String.ofList x.text).toList)
      (.unrecognized (String.ofList (lowercase x.text))) := by
  rw [String.toList_ofList, (isTrimmed_of_isPrintable x.shown_text.isPrintable).trim_eq]
  exact .alone

namespace Session

variable {δ : Type} [Destination δ]

/-- The text of a double never stops a session. -/
theorem feed_text (s : Session δ) (x : Double) :
    (s.feed (String.ofList x.text)).result = .ok .continue ∧
      (s.feed (String.ofList x.text)).session.calculator.stack =
        if x.InPlainRange then s.calculator.stack.push x else s.calculator.stack := by
  have hcommand : ∀ command, command ≠ .push x →
      isCommand command (String.ofList x.text) = false := by
    intro command hne
    rw [Bool.eq_false_iff, Ne, isCommand_iff, parse_of_retypes (retypes_text x)]
    split_ifs
    · exact fun heq => hne (Except.ok.inj heq).symm
    · exact nofun
  obtain ⟨hplain, hrefused⟩ := s.calculator.execute_of_retypes (retypes_text x)
  rw [result_feed_of_not_print _ (hcommand .print nofun), hcommand .quit nofun, calculator_feed]
  refine ⟨rfl, ?_⟩
  split_ifs with hrange
  · rw [(hplain hrange).2]
    rfl
  · rw [(hrefused hrange).2]

/-- The values in the plain range are pushed in their order, and the others are passed over. -/
theorem feedLines_map_text (s : Session δ) (values : List Double) :
    let call := s.feedLines (values.map fun x => String.ofList x.text)
    call.result = .ok .continue ∧
      call.session.calculator.stack.values =
        s.calculator.stack.values ++ values.filter (·.InPlainRange) := by
  induction values generalizing s with
  | nil => exact ⟨rfl, (List.append_nil _).symm⟩
  | cons x values ih =>
    obtain ⟨hresult, hstack⟩ := s.feed_text x
    obtain ⟨ihresult, ihvalues⟩ := ih (s.feed (String.ofList x.text)).session
    simp only [List.map_cons, feedLines, hresult, Call.precededBy]
    refine ⟨ihresult, ?_⟩
    rw [ihvalues, hstack]
    split_ifs with hrange
    · rw [Stack.values_push, List.filter_cons_of_pos (by simpa), List.append_assoc,
        List.singleton_append]
    · rw [List.filter_cons_of_neg (by simpa)]

/-- **What is shown can be typed back, exactly in the plain range.**  A line with the text that is
shown for a double, by itself or after `push`, pushes this double, with the sign of a zero, exactly
if the double is in the plain range.  Otherwise the line is refused and nothing changes: by itself
it is not recognised, and after `push` it is no valid push.  Hence, if the elements of a listing are
fed to a fresh session line by line, those in the plain range make up the stack; so it has the same
listing exactly if all values are in that range. -/
theorem retyping_restores_plain_values (c : Calculator) (s : Stack) (out : δ) :
    (∀ x line error, Retypes x (trim line.toList) error →
      let reply := c.execute line
      (reply.after.stack = c.stack.push x ↔ x.InPlainRange) ∧
      (x.InPlainRange → reply.outcome = .done ("Pushed " ++ toString x) ∧
        reply.after = c.advance (c.stack.push x) (.push x)) ∧
      (¬ x.InPlainRange → reply.outcome = .rejected error ∧ reply.after = c)) ∧
    let call := (fresh out).feedLines ((elements s.listing.toList).map String.ofList)
    call.result = .ok .continue ∧
    call.session.calculator.stack.values = s.values.filter (·.InPlainRange) ∧
    (call.session.calculator.stack.listing = s.listing ↔ ∀ x ∈ s.values, x.InPlainRange) := by
  refine ⟨fun x line error h => ?_, ?_⟩
  · obtain ⟨hplain, hrefused⟩ := c.execute_of_retypes h
    refine ⟨⟨fun hpush => ?_, fun hrange => by rw [(hplain hrange).2]; rfl⟩, hplain, hrefused⟩
    by_contra hrange
    rw [(hrefused hrange).2] at hpush
    have hsize := congrArg Stack.size hpush
    rw [Stack.size_push] at hsize
    omega
  · have hlines : (elements s.listing.toList).map String.ofList =
        s.values.map fun x => String.ofList x.text := by
      rw [Stack.listing, elements_listing, List.map_map]
      rfl
    obtain ⟨hresult, hvalues⟩ := (fresh out).feedLines_map_text s.values
    simp only [hlines]
    refine ⟨hresult, hvalues, ?_⟩
    rw [listing_eq_listing_iff, hvalues]
    simp [fresh, Calculator.fresh, List.filter_eq_self]

/-- The sign of a zero comes back, and the least power of ten that is shown with an exponent does
not. -/
theorem retyping_zero_and_power :
    Retypes (.signed true .zero) (trim " PUSH\t-0.0\n".toList) .invalidPush ∧
      (Calculator.fresh.execute " PUSH\t-0.0\n").after.stack = ⟨[.signed true .zero]⟩ ∧
      Retypes (.ofBits 0x4341c37937e08000) (trim "1e16".toList) (.unrecognized "1e16") ∧
      (Calculator.fresh.execute "1e16").outcome = .rejected (.unrecognized "1e16") := by
  have hline : trim " PUSH\t-0.0\n".toList =
      "PUSH".toList ++ ['\t'] ++ (Double.signed true .zero).text := by decide +kernel
  have hzero : Retypes (.signed true .zero) (trim " PUSH\t-0.0\n".toList) .invalidPush := by
    rw [hline]
    exact .push rfl (List.cons_ne_nil _ _) (List.forall_mem_singleton.2 rfl)
  have htext : (Double.ofBits 0x4341c37937e08000).text = "1e16".toList := by decide +kernel
  have hlower : String.ofList (lowercase "1e16".toList) = "1e16" := by decide +kernel
  have hpower := retypes_text (.ofBits 0x4341c37937e08000)
  rw [htext, hlower, String.ofList_toList] at hpower
  have hretyping := (retyping_restores_plain_values .fresh .empty Buffer.unlimited).1
  obtain ⟨-, hpushed, -⟩ := hretyping _ _ _ hzero
  obtain ⟨-, -, hrefused⟩ := hretyping _ _ _ hpower
  refine ⟨hzero, ?_, hpower, (hrefused (by decide +kernel)).1⟩
  rw [(hpushed (Double.inPlainRange_signed_iff.2 rfl)).2]
  rfl

end Session

end StackCalculator
