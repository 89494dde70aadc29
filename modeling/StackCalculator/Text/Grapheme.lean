import StackCalculator.Text.GraphemeTable

/-!
# User-perceived characters

What a reader takes for one character can be several: a letter with its accents, the letters of a
Hangul syllable, a picture put together from others, two letters that make a flag.  This file cuts a
text into such *clusters*.

Whether a character belongs to the cluster before it depends on its own kind (`Kind.of`) and on how
that cluster ends (`Ending`).  Mostly the kind of the last character is enough; the exceptions are
pictures, flags and Indic conjuncts, where the ending also tells what the last characters, marks
included, amount to.  That is all that has to be remembered from one character to the next, so one
pass over the text finds the clusters.

Cutting loses nothing: `flatten_clusters`.
-/

set_option autoImplicit false

namespace StackCalculator.Text.Grapheme

/-- What matters about a character when it comes to attaching. -/
inductive Kind where
  /-- It attaches to nothing. -/
  | plain
  | carriageReturn
  | lineFeed
  /-- Nothing attaches to it, nor it to anything. -/
  | control
  /-- It takes in what follows. -/
  | prepend
  /-- A mark over the character before it. -/
  | extend
  /-- A mark over the character before it that keeps consonants from joining. -/
  | nonJoiner
  /-- A mark that joins the consonants around it. -/
  | linker
  /-- A mark that joins the pictures around it. -/
  | joiner
  /-- A mark beside the character before it. -/
  | spacingMark
  /-- A consonant that a linker can join. -/
  | consonant
  /-- A picture that a joiner can join. -/
  | pictograph
  /-- Half a flag. -/
  | regionalIndicator
  /-- A leading consonant of a Hangul syllable. -/
  | leadingJamo
  /-- A vowel of a Hangul syllable. -/
  | vowelJamo
  /-- A trailing consonant of a Hangul syllable. -/
  | trailingJamo
  /-- A Hangul syllable that ends with its vowel. -/
  | openSyllable
  /-- A Hangul syllable that ends with a consonant. -/
  | closedSyllable
  deriving DecidableEq

/-- The kind of a Hangul syllable, given its place in their block.  There each pair of a leading
consonant and a vowel has 28 syllables, the first of which is open. -/
def Kind.ofSyllable (place : Nat) : Kind := if place % 28 = 0 then .openSyllable else .closedSyllable

/-- The kind of a character. -/
def Kind.of (c : Char) : Kind :=
  if ' ' ≤ c ∧ c ≤ '~' then .plain
  else if c = '\r' then .carriageReturn
  else if c = '\n' then .lineFeed
  else if c = '\u200C' then .nonJoiner
  else if c = '\u200D' then .joiner
  else if '\uAC00' ≤ c ∧ c ≤ '\uD7A3' then .ofSyllable (c.toNat - 0xAC00)
  else if 0x1F1E6 ≤ c.toNat ∧ c.toNat ≤ 0x1F1FF then .regionalIndicator
  else if isIn controlRanges c then .control
  else if isIn linkerRanges c then .linker
  else if isIn extendRanges c then .extend
  else if isIn spacingMarkRanges c then .spacingMark
  else if isIn consonantRanges c then .consonant
  else if isIn pictographRanges c then .pictograph
  else if isIn prependRanges c then .prepend
  else if isIn leadingJamoRanges c then .leadingJamo
  else if isIn vowelJamoRanges c then .vowelJamo
  else if isIn trailingJamoRanges c then .trailingJamo
  else .plain

/-- How a cluster ends. -/
inductive Ending where
  /-- With a character of this kind, and what is before it does not matter. -/
  | after (kind : Kind)
  /-- With a consonant, and marks that do not link it. -/
  | consonant
  /-- With a consonant, and marks that link it to another. -/
  | linkedConsonant
  /-- With a picture, and marks over it. -/
  | picture
  /-- With a picture, marks over it and a joiner. -/
  | joinedPicture
  /-- With the first half of a flag. -/
  | halfFlag
  deriving DecidableEq

namespace Ending

/-- The ending of a cluster that has only just begun. -/
def start : Kind → Ending
  | .consonant => .consonant
  | .pictograph => .picture
  | .regionalIndicator => .halfFlag
  | kind => .after kind

/-- The ending of a cluster after one more character. -/
def next : Ending → Kind → Ending
  | .consonant, .extend | .consonant, .joiner => .consonant
  | .consonant, .linker => .linkedConsonant
  | .linkedConsonant, .extend | .linkedConsonant, .joiner => .linkedConsonant
  | .linkedConsonant, .linker => .linkedConsonant
  | .picture, .extend | .picture, .nonJoiner | .picture, .linker => .picture
  | .picture, .joiner => .joinedPicture
  | .halfFlag, .regionalIndicator => .after .regionalIndicator
  | _, kind => start kind

/-- Whether marks attach to a cluster. -/
def takesMarks : Ending → Bool
  | .after .carriageReturn | .after .lineFeed | .after .control => false
  | _ => true

/-- Whether a character belongs to the cluster before it. -/
def joins : Ending → Kind → Bool
  | .after .carriageReturn, .lineFeed => true
  | _, .carriageReturn | _, .lineFeed | _, .control => false
  | ending, .extend | ending, .nonJoiner | ending, .linker | ending, .joiner
  | ending, .spacingMark => ending.takesMarks
  | .after .prepend, _ => true
  | .linkedConsonant, .consonant => true
  | .joinedPicture, .pictograph => true
  | .halfFlag, .regionalIndicator => true
  | .after .leadingJamo, .leadingJamo | .after .leadingJamo, .vowelJamo => true
  | .after .leadingJamo, .openSyllable | .after .leadingJamo, .closedSyllable => true
  | .after .vowelJamo, .vowelJamo | .after .vowelJamo, .trailingJamo => true
  | .after .openSyllable, .vowelJamo | .after .openSyllable, .trailingJamo => true
  | .after .trailingJamo, .trailingJamo | .after .closedSyllable, .trailingJamo => true
  | _, _ => false

end Ending

/-- The clusters of the rest of a text.  `cluster` is what has been read of the current one, the last
character first, and `ending` tells how it ends. -/
def clustersFrom (cluster : List Char) (ending : Ending) : List Char → List (List Char)
  | [] => [cluster.reverse]
  | c :: rest =>
    let kind := Kind.of c
    if ending.joins kind then clustersFrom (c :: cluster) (ending.next kind) rest
    else cluster.reverse :: clustersFrom [c] (.start kind) rest

/-- The clusters of a text. -/
def clusters : List Char → List (List Char)
  | [] => []
  | c :: rest => clustersFrom [c] (.start (Kind.of c)) rest

/-! ## Cutting loses nothing -/

theorem flatten_clustersFrom (cluster : List Char) (ending : Ending) (text : List Char) :
    (clustersFrom cluster ending text).flatten = cluster.reverse ++ text := by
  induction text generalizing cluster ending with
  | nil => simp [clustersFrom]
  | cons c rest ih =>
    simp only [clustersFrom]
    split <;> simp [ih]

/-- **Nothing is lost.**  The clusters of a text, put together again, are the text. -/
theorem flatten_clusters (text : List Char) : (clusters text).flatten = text := by
  cases text with
  | nil => rfl
  | cons c rest => simp [clusters, flatten_clustersFrom]

/-- A character of a cluster is a character of the text. -/
theorem mem_of_mem_cluster {c : Char} {cluster text : List Char} (h : cluster ∈ clusters text)
    (hc : c ∈ cluster) : c ∈ text := by
  rw [← flatten_clusters text]
  exact List.mem_flatten_of_mem h hc

end StackCalculator.Text.Grapheme
