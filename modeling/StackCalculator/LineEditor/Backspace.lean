import StackCalculator.Text.Grapheme

/-!
# Backspaces in a line

What a backspace deletes is the business of the line editor.  A session relies on two things only,
and they make an `Editing`: a line without backspaces stays as it is, and no line gains a character.
All that is proved about sessions over a line editor is proved for every editing.

`Editing.clusters` is one of them, and the one that the program is run with.  A backspace deletes
the user-perceived character before it, with all that attaches to it.  What belongs together is
settled on the line as it was read, before anything is deleted from it: marks after a backspace do
not attach to what the deletion brings next to them.

This editing remembers each cluster by its size alone, counted in bytes of UTF-8 and kept in a byte.
So a backspace takes off as many bytes from the end of what is left of the line as the latest
cluster not yet deleted had, less any multiple of 256, except that no character is taken off in
part.  For clusters of fewer than 256 bytes that is the whole cluster, and longer ones are not what
it is meant for.
-/

set_option autoImplicit false

-- Sums start from the zero of the core library, whatever else is imported.
attribute [local instance (high)] Zero.ofOfNat0

namespace StackCalculator.LineEditor

/-- A way to carry out the backspaces in a line, with what a session relies on. -/
structure Editing where
  /-- What is left of a line. -/
  erase : List Char → List Char
  /-- A line without backspaces stays as it is. -/
  erase_eq_self : ∀ {line : List Char}, '\x08' ∉ line → erase line = line
  /-- No character is added. -/
  mem_of_mem_erase : ∀ {line : List Char} {c : Char}, c ∈ erase line → c ∈ line

/-! ## Deleting clusters -/

/-- The number of bytes that a text takes in UTF-8. -/
def byteSize (text : List Char) : Nat := (text.map Char.utf8Size).sum

/-- Take characters of the given size in all off the start of a text, none of them in part. -/
def dropBytes (size : Nat) : List Char → List Char
  | [] => []
  | c :: rest => if c.utf8Size ≤ size then dropBytes (size - c.utf8Size) rest else c :: rest

/-- Delete what the backspaces among the remaining clusters delete.  `kept` is what is left of the
clusters so far, the last character first, and `sizes` are the sizes of those that the next
backspaces delete. -/
def eraseFrom (kept : List Char) (sizes : List Nat) : List (List Char) → List Char
  | [] => kept.reverse
  | cluster :: rest =>
    if cluster = ['\x08'] then eraseFrom (dropBytes (sizes.headD 0) kept) sizes.tail rest
    else eraseFrom (cluster.reverse ++ kept) (byteSize cluster % 256 :: sizes) rest

/-- Delete the cluster before each backspace, nothing at the start of the text. -/
def eraseClusters (text : List Char) : List Char := eraseFrom [] [] (Text.Grapheme.clusters text)

/-! ## What is left -/

theorem mem_of_mem_dropBytes {size : Nat} {text : List Char} {c : Char}
    (h : c ∈ dropBytes size text) : c ∈ text := by
  induction text generalizing size with
  | nil => exact h
  | cons d rest ih =>
    rw [dropBytes] at h
    split at h
    · exact List.mem_cons_of_mem d (ih h)
    · exact h

theorem eraseFrom_of_not_mem (kept : List Char) (sizes : List Nat) (clusters : List (List Char))
    (h : ['\x08'] ∉ clusters) :
    eraseFrom kept sizes clusters = kept.reverse ++ clusters.flatten := by
  induction clusters generalizing kept sizes with
  | nil => simp [eraseFrom]
  | cons cluster rest ih =>
    rw [List.mem_cons, not_or] at h
    rw [eraseFrom, if_neg (Ne.symm h.1), ih _ _ h.2]
    simp

/-- **Without backspaces nothing is deleted.** -/
theorem eraseClusters_eq_self {text : List Char} (h : '\x08' ∉ text) :
    eraseClusters text = text := by
  have hclusters : ['\x08'] ∉ Text.Grapheme.clusters text := fun hmem =>
    h (Text.Grapheme.mem_of_mem_cluster hmem List.mem_cons_self)
  rw [eraseClusters, eraseFrom_of_not_mem _ _ _ hclusters, Text.Grapheme.flatten_clusters]
  rfl

theorem mem_of_mem_eraseFrom {kept : List Char} {sizes : List Nat} {clusters : List (List Char)}
    {c : Char} (h : c ∈ eraseFrom kept sizes clusters) : c ∈ kept ∨ c ∈ clusters.flatten := by
  induction clusters generalizing kept sizes with
  | nil => exact .inl (List.mem_reverse.mp h)
  | cons cluster rest ih =>
    rw [List.flatten_cons, List.mem_append]
    rw [eraseFrom] at h
    split at h
    · rcases ih h with hkept | hrest
      · exact .inl (mem_of_mem_dropBytes hkept)
      · exact .inr (.inr hrest)
    · rcases ih h with hkept | hrest
      · rw [List.mem_append, List.mem_reverse] at hkept
        rcases hkept with hcluster | hkept
        · exact .inr (.inl hcluster)
        · exact .inl hkept
      · exact .inr (.inr hrest)

/-- **No character is added.** -/
theorem mem_of_mem_eraseClusters {text : List Char} {c : Char} (h : c ∈ eraseClusters text) :
    c ∈ text := by
  rcases mem_of_mem_eraseFrom h with hnil | hmem
  · exact absurd hnil List.not_mem_nil
  · rwa [Text.Grapheme.flatten_clusters] at hmem

/-- The editing in which a backspace deletes a cluster. -/
def Editing.clusters : Editing where
  erase := eraseClusters
  erase_eq_self := eraseClusters_eq_self
  mem_of_mem_erase := mem_of_mem_eraseClusters

end StackCalculator.LineEditor
