import StackCalculator.Calculator.Event
import StackCalculator.Proofs.Session.Endings

/-!
# The lines of a log

A log is a text, and whoever reads it takes each line for an entry.  So what goes into an entry must
not have line feeds of its own.  Here it is shown for the texts that an entry is made of, one stage
after the other, and then for the entry.

* `Unbroken` — the text has no line feed.  The stages that a typed line goes through keep it:
  trimming takes off a line feed at the end (`Text.lineFeed_not_mem_trim`), lower-casing makes none
  (`Text.mem_of_mem_lowercase`), and neither does making a text safe for output, in either way.
* `IsLine` — the text is one line with its line feed.  `Log.Entry.IsUnbroken.isLine_render`: **an
  entry is, if there is no line feed in its message and its fields**, with or without colors.
* `lineFeeds` — the number of lines of a log.  Colors make no difference to it
  (`Log.lineFeeds_coloredText`).
-/

set_option autoImplicit false

namespace StackCalculator

/-! ## Texts without a line feed -/

/-- The text has no line feed. -/
def Unbroken (text : String) : Prop := '\n' ∉ text.toList

instance : DecidablePred Unbroken := fun text => inferInstanceAs (Decidable ('\n' ∉ text.toList))

/-- The text is a line with its line feed. -/
def IsLine (text : String) : Prop := ∃ line, Unbroken line ∧ text = line ++ "\n"

/-- The number of line feeds in a text. -/
def lineFeeds (text : String) : Nat := text.toList.count '\n'

theorem Unbroken.append {text text' : String} (h : Unbroken text) (h' : Unbroken text') :
    Unbroken (text ++ text') := by
  rw [Unbroken, String.toList_append]
  exact List.not_mem_append h h'

theorem unbroken_join {texts : List String} (h : ∀ text ∈ texts, Unbroken text) :
    Unbroken (String.join texts) := by
  rw [Unbroken, String.toList_join, List.mem_flatMap]
  rintro ⟨text, htext, hmem⟩
  exact h text htext hmem

theorem unbroken_ofList {text : List Char} (h : '\n' ∉ text) : Unbroken (String.ofList text) := by
  rwa [Unbroken, String.toList_ofList]

@[simp] theorem lineFeeds_append (text text' : String) :
    lineFeeds (text ++ text') = lineFeeds text + lineFeeds text' := by
  simp [lineFeeds]

theorem lineFeeds_ofList (text : List Char) : lineFeeds (String.ofList text) = text.count '\n' := by
  rw [lineFeeds, String.toList_ofList]

theorem lineFeeds_join (texts : List String) :
    lineFeeds (String.join texts) = (texts.map lineFeeds).sum := by
  rw [lineFeeds, String.toList_join, List.count_flatMap]
  rfl

theorem lineFeeds_eq_zero_iff {text : String} : lineFeeds text = 0 ↔ Unbroken text :=
  List.count_eq_zero

theorem lineFeeds_of_isLine {text : String} (h : IsLine text) : lineFeeds text = 1 := by
  obtain ⟨line, hline, rfl⟩ := h
  rw [lineFeeds_append, lineFeeds_eq_zero_iff.2 hline]
  rfl

namespace Text

/-! ## What is made of a line -/

theorem mem_of_mem_trim {text : List Char} {c : Char} (h : c ∈ trim text) : c ∈ text := by
  have hend : c ∈ text.dropWhile isBlank := (List.rdropWhile_prefix isBlank _).mem h
  exact (List.dropWhile_suffix isBlank).mem hend

/-- A line feed at the end of a line is trimmed off. -/
theorem lineFeed_not_mem_trim {line : List Char} (h : '\n' ∉ line.dropLast) :
    '\n' ∉ trim line := by
  rcases List.eq_nil_or_concat' line with rfl | ⟨start, last, rfl⟩
  · exact List.not_mem_nil
  rw [List.dropLast_concat] at h
  by_cases hlast : last = '\n'
  · rw [hlast, trim_append_of_isBlank (by decide)]
    exact mt mem_of_mem_trim h
  · refine mt mem_of_mem_trim (List.not_mem_append h ?_)
    rw [List.mem_singleton]
    exact Ne.symm hlast

/-- A blank in the lower-case text was there before. -/
theorem mem_of_mem_lowercase {text : List Char} {c : Char} (hc : isBlank c = true)
    (h : c ∈ lowercase text) : c ∈ text := by
  obtain ⟨d, hd, forms, hforms, hmem⟩ := (lowered_lowercase text).exists_form_of_mem h
  cases hblank : isBlank d with
  | true =>
    rw [hforms.eq_of_isBlank hblank, List.mem_singleton] at hmem
    exact hmem ▸ hd
  | false =>
    rw [hforms.isBlank_eq_false hblank hmem] at hc
    exact absurd hc Bool.false_ne_true

theorem lineFeed_not_mem_normalize {line : List Char} (h : '\n' ∉ line.dropLast) :
    '\n' ∉ normalize line :=
  mt (mem_of_mem_lowercase (by decide)) (lineFeed_not_mem_trim h)

/-! ## What is made of a text for output -/

theorem lineFeed_not_mem_toDigits (n : Nat) : '\n' ∉ Nat.toDigits 16 n := by
  induction n using Nat.strongRecOn with
  | _ n ih =>
    rw [Nat.toDigits_eq_if (by decide)]
    split
    · simp
    · have hless : n / 16 < n := Nat.div_lt_self (by omega) (by decide)
      exact List.not_mem_append (ih _ hless) (by simp)

theorem lineFeed_not_mem_codePointEscape (c : Char) : '\n' ∉ codePointEscape c := by
  simp [codePointEscape, lineFeed_not_mem_toDigits]

/-- A line feed is not quoted as it is. -/
theorem lineFeed_not_mem_quoteChar (c : Char) : '\n' ∉ quoteChar c := by
  rw [quoteChar.eq_def]
  split
  case h_7 hne _ _ _ =>
    split
    · exact lineFeed_not_mem_codePointEscape c
    · simpa using Ne.symm hne
  all_goals decide

/-- There is no line feed between quotation marks, even if there is one in the text. -/
theorem unbroken_quoted (text : String) : Unbroken (quoted text) := by
  refine unbroken_ofList ?_
  simp [quote, lineFeed_not_mem_quoteChar]

theorem lineFeed_not_mem_sanitizeChar {c : Char} (h : c ≠ '\n') : '\n' ∉ sanitizeChar c := by
  rw [sanitizeChar]
  split_ifs
  · decide
  · decide
  · decide
  · decide
  · decide
  · exact lineFeed_not_mem_codePointEscape c
  · simpa using Ne.symm h

theorem count_sanitize (text : List Char) : (sanitize text).count '\n' = text.count '\n' := by
  induction text with
  | nil => rfl
  | cons c text ih =>
    have hc : (sanitizeChar c).count '\n' = [c].count '\n' := by
      by_cases h : c = '\n'
      · subst h
        decide
      · have hnot : '\n' ∉ [c] := by simpa using Ne.symm h
        rw [List.count_eq_zero.2 (lineFeed_not_mem_sanitizeChar h), List.count_eq_zero.2 hnot]
    rw [sanitize, List.flatMap_cons, List.count_append, hc, ← sanitize, ih, ← List.count_append,
      List.singleton_append]

/-- What is spelled out is no line feed, and line feeds are not spelled out. -/
theorem lineFeeds_sanitized (text : String) : lineFeeds (sanitized text) = lineFeeds text := by
  rw [sanitized, lineFeeds_ofList, count_sanitize, lineFeeds]

end Text

/-! ## Entries -/

namespace Log

namespace Entry

/-- There is no line feed in the message and the fields. -/
structure IsUnbroken (entry : Entry) : Prop where
  /-- The message has none. -/
  message : Unbroken entry.message
  /-- The fields have none, neither in the name nor in the value. -/
  fields : ∀ field ∈ entry.fields, Unbroken field.name ∧ Unbroken field.value

theorem IsUnbroken.body {entry : Entry} (h : entry.IsUnbroken) : Unbroken entry.body := by
  have hmessage : Unbroken (Text.sanitized entry.message) := by
    rw [← lineFeeds_eq_zero_iff, Text.lineFeeds_sanitized, lineFeeds_eq_zero_iff]
    exact h.message
  refine hmessage.append (unbroken_join fun text htext => ?_)
  obtain ⟨field, hfield, rfl⟩ := List.mem_map.1 htext
  obtain ⟨hname, hvalue⟩ := h.fields field hfield
  have hblank : Unbroken " " := unbroken_ofList (by decide)
  have hequals : Unbroken "=" := unbroken_ofList (by decide)
  exact ((hblank.append hname).append hequals).append hvalue

/-- What stands in front of the body in a log with colors. -/
theorem unbroken_coloredLabel (level : Level) :
    Unbroken ("\x1b[" ++ level.color ++ "m" ++ level.label ++ "\x1b[0m ") := by
  cases level <;> decide

theorem unbroken_label (level : Level) : Unbroken (level.label ++ " ") := by
  cases level <;> decide

/-- **An entry without line feeds is one line of the log.** -/
theorem IsUnbroken.isLine_render {entry : Entry} (h : entry.IsUnbroken) : IsLine entry.render :=
  ⟨_, (unbroken_label entry.level).append h.body, rfl⟩

theorem IsUnbroken.isLine_renderColored {entry : Entry} (h : entry.IsUnbroken) :
    IsLine entry.renderColored :=
  ⟨_, (unbroken_coloredLabel entry.level).append h.body, rfl⟩

/-- A body has the line feed that ends its line, and those of its own. -/
theorem lineFeeds_render (entry : Entry) : lineFeeds entry.render = lineFeeds entry.body + 1 := by
  rw [render, lineFeeds_append, lineFeeds_append,
    lineFeeds_eq_zero_iff.2 (unbroken_label entry.level), Nat.zero_add]
  rfl

/-- Colors make no lines. -/
theorem lineFeeds_renderColored (entry : Entry) :
    lineFeeds entry.renderColored = lineFeeds entry.render := by
  rw [lineFeeds_render, renderColored, lineFeeds_append, lineFeeds_append,
    lineFeeds_eq_zero_iff.2 (unbroken_coloredLabel entry.level), Nat.zero_add]
  rfl

end Entry

/-! ## Logs -/

theorem lineFeeds_text (level : Level) (events : List Event) :
    lineFeeds (text level events) =
      ((entries level events).map fun entry => lineFeeds entry.render).sum := by
  rw [text, lineFeeds_join, List.map_map]
  rfl

/-- A log has as many lines with colors as without. -/
theorem lineFeeds_coloredText (level : Level) (events : List Event) :
    lineFeeds (coloredText level events) = lineFeeds (text level events) := by
  rw [lineFeeds_text, coloredText, lineFeeds_join, List.map_map]
  exact congrArg List.sum (List.map_congr_left fun entry _ => entry.lineFeeds_renderColored)

theorem text_singleton (level : Level) (event : Event) :
    text level [event] = if level.keeps event.level then event.entry.render else "" := by
  rw [text, entries, List.filter_singleton]
  cases level.keeps event.level with
  | true => exact String.join_cons.trans String.append_empty
  | false => rfl

/-- An event has its lines in the logs that keep it. -/
theorem lineFeeds_text_singleton (level : Level) (event : Event) :
    lineFeeds (text level [event]) =
      (level.keeps event.level).toNat * lineFeeds event.entry.render := by
  rw [text_singleton]
  cases hkeeps : level.keeps event.level with
  | true => rw [if_pos rfl, Bool.toNat_true, Nat.one_mul]
  | false =>
    rw [if_neg Bool.false_ne_true, Bool.toNat_false, Nat.zero_mul]
    rfl

theorem lineFeeds_text_of_isUnbroken (level : Level) {event : Event} (h : event.entry.IsUnbroken) :
    lineFeeds (text level [event]) = (level.keeps event.level).toNat := by
  rw [lineFeeds_text_singleton, lineFeeds_of_isLine h.isLine_render, Nat.mul_one]

end Log

end StackCalculator
