import StackCalculator.Proofs.LineEditor.Lines

/-!
# A piped line editor and a stream

The line editor reads strictly what a stream reads leniently, cuts the lines differently, takes off
their ending and lets backspaces delete.  On a text none of this shows, except that the backspaces
are gone:

* `LineEditor.Editing.editText` — the text with the backspaces of each line carried out, its line
  endings left as they are;
* `LineEditor.runPiped_eq_run` — **a session over the piped editor is the session over the edited
  text**, as long as writing does not fail, and whatever a backspace deletes.

Both come to the same lines, up to blanks around them: to the carriage return of a line ending,
which the stream leaves to trimming, and to an empty line at the end of the text, which neither
executes.
-/

set_option autoImplicit false

namespace StackCalculator.LineEditor

open Text

variable (editing : Editing)

/-! ## The edited text -/

namespace Editing

/-- A line with its backspaces carried out.  The carriage return before a line feed belongs to the
line ending and is not edited. -/
def editLine (line : List Char) : List Char :=
  if line.getLast? = some '\r' then editing.erase line.dropLast ++ ['\r'] else editing.erase line

/-- The text with the backspaces of each line carried out.  No line feed ends the last line. -/
def editText (text : List Char) : List Char :=
  (text.splitOn '\n').dropLast.flatMap (fun line => editing.editLine line ++ ['\n']) ++
    editing.erase ((text.splitOn '\n').getLastD [])

theorem mem_of_mem_editLine {line : List Char} {c : Char} (h : c ∈ editing.editLine line) :
    c ∈ line := by
  rw [editLine] at h
  split at h
  · rename_i hreturn
    rw [List.mem_append, List.mem_singleton] at h
    rcases h with herase | rfl
    · exact List.mem_of_mem_dropLast (editing.mem_of_mem_erase herase)
    · exact List.mem_of_getLast? hreturn
  · exact editing.mem_of_mem_erase h

theorem editLine_eq_self {line : List Char} (h : '\x08' ∉ line) : editing.editLine line = line := by
  rw [editLine]
  split
  · rename_i hreturn
    rw [editing.erase_eq_self (mt List.mem_of_mem_dropLast h),
      List.dropLast_append_getLast? '\r' hreturn]
  · exact editing.erase_eq_self h

/-- The editor takes off the line ending before it edits. -/
theorem trim_editLine (line : List Char) :
    trim (editing.editLine line) = trim (editing.erase (dropReturn line)) := by
  rw [editLine, dropReturn]
  split
  · exact trim_append_of_isBlank rfl
  · rfl

section Lines

variable {lines : List (List Char)} {rest : List Char}

theorem editText_lines (hlines : ∀ line ∈ lines, '\n' ∉ line) (hrest : '\n' ∉ rest) :
    editing.editText (lines.flatMap (· ++ ['\n']) ++ rest) =
      (lines.map editing.editLine).flatMap (· ++ ['\n']) ++ editing.erase rest := by
  rw [editText, splitOn_lines hlines hrest, List.dropLast_concat, List.getLastD_concat,
    List.flatMap_map]

theorem splitOn_editText_lines (hlines : ∀ line ∈ lines, '\n' ∉ line) (hrest : '\n' ∉ rest) :
    (editing.editText (lines.flatMap (· ++ ['\n']) ++ rest)).splitOn '\n' =
      lines.map editing.editLine ++ [editing.erase rest] := by
  rw [editing.editText_lines hlines hrest, splitOn_lines _ (mt editing.mem_of_mem_erase hrest)]
  simpa using fun line hline => mt editing.mem_of_mem_editLine (hlines line hline)

end Lines

theorem editText_eq_self {text : List Char} (h : '\x08' ∉ text) : editing.editText text = text := by
  obtain ⟨lines, rest, rfl, hlines, hrest⟩ := exists_lines '\n' text
  rw [List.mem_append, not_or] at h
  have hkept : lines.map editing.editLine = lines := by
    refine (List.map_congr_left fun line hline => ?_).trans (List.map_id lines)
    refine editing.editLine_eq_self fun hmem => h.1 ?_
    exact List.mem_flatMap.2 ⟨line, hline, List.mem_append_left _ hmem⟩
  rw [editing.editText_lines hlines hrest, hkept, editing.erase_eq_self h.2]

end Editing

/-! ## The session -/

variable {δ : Type} [Destination δ] {reliable : Reliable δ} {s : Session δ}

theorem readLine?_encode (terminated : Bool) (text : List Char) :
    editing.readLine? terminated (Utf8.encode text) =
      some (String.ofList (editing.erase (if terminated then dropReturn text else text))) := by
  rw [Editing.readLine?, Utf8.decode?_encode, Option.map_some]

theorem runPieces_encode_cons (s : Session δ) (line : List Char) {pieces : List (List UInt8)}
    (h : pieces.isEmpty = false) :
    editing.runPieces s (Utf8.encode line :: pieces) =
      feedThen s (String.ofList (editing.erase (dropReturn line)))
        fun s => editing.runPieces s pieces := by
  rw [Editing.runPieces, h, readLine?_encode]
  rfl

/-- A rest without a line feed is no line if nothing stands in it, and keeps a carriage return. -/
theorem runPieces_encode_singleton (s : Session δ) {rest : List Char} (h : rest ≠ []) :
    editing.runPieces s [Utf8.encode rest] =
      feedThen s (String.ofList (editing.erase rest)) fun s => ended s .endOfInput := by
  have hbytes : (Utf8.encode rest).isEmpty = false := by
    rw [List.isEmpty_eq_false_iff]
    exact mt Utf8.encode_eq_nil_iff.1 h
  rw [Editing.runPieces, hbytes, readLine?_encode]
  rfl

/-- A piped editor feeds the lines without their endings, and the rest if there is any. -/
theorem runPieces_encode (hs : reliable.Sound s.out) (lines : List (List Char))
    (rest : List Char) :
    editing.runPieces s ((lines ++ [rest]).map Utf8.encode) =
      (s.feedLines ((lines.map fun line => String.ofList (editing.erase (dropReturn line))) ++
        [String.ofList (editing.erase rest)])).concluded := by
  induction lines generalizing s with
  | nil =>
    rw [List.nil_append, List.map_singleton, List.map_nil, List.nil_append]
    by_cases hrest : rest = []
    · have hblank : trim (String.ofList (editing.erase [])).toList = [] := by
        rw [editing.erase_eq_self List.not_mem_nil]
        rfl
      rw [hrest, Session.feedLines, s.feed_of_blank hblank]
      rfl
    · rw [runPieces_encode_singleton editing s hrest]
      exact feedThen_eq hs _ fun _ => rfl
  | cons line lines ih =>
    have hmore : ((lines ++ [rest]).map Utf8.encode).isEmpty = false := by simp
    rw [List.cons_append, List.map_cons, runPieces_encode_cons editing s line hmore]
    exact feedThen_eq hs _ fun _ => ih (Reliable.sound_feed hs _)

/-- **Over a piped line editor a session does what it does over the edited text**: the result, what
is reported, what is written and the calculator afterwards are the same, whatever the text is and in
whatever way the editor carries out backspaces.  Hence it does what it does over the text itself if
there are no backspaces. -/
theorem runPiped_eq_run (editing : Editing) (reliable : Reliable δ) (s : Session δ)
    (hs : reliable.Sound s.out) (text : String) :
    editing.runPiped s text.toUTF8.toList =
        s.run ⟨(String.ofList (editing.editText text.toList)).toUTF8.toList, none⟩ ∧
      ('\x08' ∉ text.toList →
        editing.runPiped s text.toUTF8.toList = s.run ⟨text.toUTF8.toList, none⟩) := by
  have hedited : editing.runPiped s text.toUTF8.toList =
      s.run ⟨(String.ofList (editing.editText text.toList)).toUTF8.toList, none⟩ := by
    obtain ⟨lines, rest, htext, hlines, hrest⟩ := exists_lines '\n' text.toList
    have hread : editing.runPiped s text.toUTF8.toList =
        (s.feedLines ((lines.map fun line => String.ofList (editing.erase (dropReturn line))) ++
          [String.ofList (editing.erase rest)])).concluded := by
      rw [Editing.runPiped, Utf8.toList_toUTF8, Utf8.splitOn_encode, htext,
        splitOn_lines hlines hrest, runPieces_encode editing hs]
    rw [hread, s.run_eq_concluded, Utf8.toList_toUTF8, String.toList_ofList,
      Utf8.decodeLossy_encode, script, htext, editing.splitOn_editText_lines hlines hrest,
      s.feedLines_filter]
    congr 1
    refine Session.feedLines_congr ?_
    simp [Editing.trim_editLine]
  refine ⟨hedited, fun h => ?_⟩
  rw [hedited, editing.editText_eq_self h, String.ofList_toList]

/-- The backspace deletes a letter with its accent, a carriage return is left over at the end of the
input, and nothing is read after the line that quits. -/
theorem runPiped_erases_accented_letter :
    Buffer.reliable.Sound Buffer.unlimited ∧
      Editing.clusters.runPiped (.fresh Buffer.unlimited)
          "1e\u0301\x082\r\n\nprint\r".toUTF8.toList =
        (Session.fresh Buffer.unlimited).run ⟨"12\r\n\nprint\r".toUTF8.toList, none⟩ ∧
      '\x08' ∉ "3\r\nQuit\n4".toList ∧
      Editing.clusters.runPiped (.fresh Buffer.unlimited) "3\r\nQuit\n4".toUTF8.toList =
        (Session.fresh Buffer.unlimited).run ⟨"3\r\nQuit\n4".toUTF8.toList, none⟩ := by
  have hsound : Buffer.reliable.Sound Buffer.unlimited := ⟨rfl, rfl⟩
  have hplain : '\x08' ∉ "3\r\nQuit\n4".toList := by decide
  have hedit : String.ofList (Editing.clusters.editText "1e\u0301\x082\r\n\nprint\r".toList) =
      "12\r\n\nprint\r" := by
    decide +kernel
  refine ⟨hsound, ?_, hplain, (runPiped_eq_run .clusters Buffer.reliable _ hsound _).2 hplain⟩
  rw [← hedit]
  exact (runPiped_eq_run .clusters Buffer.reliable _ hsound _).1

end StackCalculator.LineEditor
