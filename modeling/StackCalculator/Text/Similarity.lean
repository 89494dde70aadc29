import StackCalculator.Double.Magnitude

/-!
# How similar two texts are

`similarity` is the Jaro measure, a number from zero for texts that have nothing in common to one
for equal texts.  It pairs equal characters that stand at nearly the same place in either text
(`partners`), and is the mean of three shares: the paired characters among those of each text, and
those that are paired in the same order among the paired ones.

The shares, their sum and the mean are doubles, each rounded to the nearest.  What is compared is
the rounded value, so two texts can be told apart by it although their exact measures are equal.
-/

set_option autoImplicit false

namespace StackCalculator.Text

/-- How far apart two characters may stand to be paired, given the lengths of the texts. -/
def pairingDistance (m n : Nat) : Nat := max m n / 2 - 1

/-- The first place in a text that the character at place `i` of the other text can be paired with,
when the places `taken` have been paired already. -/
def partner? (other : List Char) (distance : Nat) (taken : List Nat) (i : Nat) (c : Char) :
    Option Nat :=
  (List.range other.length).find? fun j =>
    i ≤ j + distance && j ≤ i + distance && other[j]? == some c && !taken.contains j

/-- The places in the other text that the characters from place `i` on are paired with, in the order
of those characters, after those of the characters before them, which `taken` holds in reverse. -/
def partnersFrom (other : List Char) (distance : Nat) (taken : List Nat) (i : Nat) :
    List Char → List Nat
  | [] => taken.reverse
  | c :: rest =>
    match partner? other distance taken i c with
    | some j => partnersFrom other distance (j :: taken) (i + 1) rest
    | none => partnersFrom other distance taken (i + 1) rest

/-- The places in the other text that characters of a text are paired with, in the order of the
text.  Each character takes the first place that it can. -/
def partners (text other : List Char) : List Nat :=
  partnersFrom other (pairingDistance text.length other.length) [] 0 text

/-- The number of transpositions among paired characters: half the number of those that are not
equal to their counterpart when the characters of either text are read in its own order. -/
def transpositions (other : List Char) (places : List Nat) : Nat :=
  let ascending := (List.range other.length).filter places.contains
  ((places.zip ascending).filter fun (j, k) => other[j]? != other[k]?).length / 2

/-- A part of a whole, rounded. -/
def share (part whole : Nat) : Magnitude := .nearest (Magnitude.unitsPerOne * part) whole

/-- How similar two texts are. -/
def similarity (text other : List Char) : Magnitude :=
  let places := partners text other
  let paired := places.length
  if paired = 0 then .zero
  else
    let both : Magnitude :=
      .nearest ((share paired text.length).value + (share paired other.length).value) 1
    let ordered := share (paired - transpositions other places) paired
    let sum : Magnitude := .nearest (both.value + ordered.value) 1
    .nearest sum.value 3

/-- Texts are similar if the similarity exceeds seven tenths. -/
def isSimilar (text other : List Char) : Bool :=
  (share 7 10).rank < (similarity text other).rank

end StackCalculator.Text
