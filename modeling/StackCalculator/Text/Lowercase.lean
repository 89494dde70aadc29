import StackCalculator.Text.Blank
import StackCalculator.Text.CaseTable

/-!
# Lower case

Lower-casing without a locale.  Most characters have their own lower-case letter whatever stands
around them, and `İ` has two characters, `i` and a combining dot.  The capital sigma alone depends
on its surroundings: at the end of a word it becomes `ς`, elsewhere `σ`.  It ends a word if a cased
letter comes before it and none after it, marks and apostrophes in between being overlooked.

`normalize` is what the calculator does to a line before looking at it: trim, then lower-case.
-/

set_option autoImplicit false

namespace StackCalculator.Text

/-- Whether the first character that is not overlooked is a cased letter. -/
def startsCased (text : List Char) : Bool :=
  match text.dropWhile (isIn caseIgnorableRanges) with
  | [] => false
  | c :: _ => isIn casedRanges c

/-- The lower-case forms of a character whose form does not depend on its surroundings. -/
def lowercaseChar (c : Char) : List Char :=
  if c.toNat < 0x80 then [c.toLower]
  else if c = 'İ' then ['i', '\u0307']
  else match lowercaseRuns.find? (·.contains c.toNat) with
    | some run => [Char.ofNat (run.image + (c.toNat - run.first))]
    | none => [c]

/-- Lower-case a text.  `before` is what precedes it, nearest character first. -/
def lowercaseAfter (before : List Char) : List Char → List Char
  | [] => []
  | c :: rest =>
    (if c = 'Σ' then
      if startsCased before && !startsCased rest then ['ς'] else ['σ']
    else lowercaseChar c) ++ lowercaseAfter (c :: before) rest

/-- The text in lower case. -/
def lowercase (text : List Char) : List Char := lowercaseAfter [] text

/-- The text without surrounding blanks, in lower case. -/
def normalize (text : List Char) : List Char := lowercase (trim text)

end StackCalculator.Text
