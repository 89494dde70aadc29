import StackCalculator.Text.CodeRange

/-!
# Blanks, trimming and words

A blank is a character with the Unicode property `White_Space`.  It is a wider class than the blanks
of ASCII (it has the no-break space and the line separators) and narrower than "what looks empty":
the zero-width space and the byte order mark are not blanks.
-/

set_option autoImplicit false

namespace StackCalculator.Text

/-- The code points with the property `White_Space`. -/
def blankRanges : List CodeRange :=
  [(0x0009, 0x000D), (0x0020, 0x0020), (0x0085, 0x0085), (0x00A0, 0x00A0), (0x1680, 0x1680),
   (0x2000, 0x200A), (0x2028, 0x2029), (0x202F, 0x202F), (0x205F, 0x205F), (0x3000, 0x3000)]

/-- Whether a character is a blank. -/
def isBlank (c : Char) : Bool := isIn blankRanges c

/-- The text without the blanks at its end. -/
def trimEnd (text : List Char) : List Char := (text.reverse.dropWhile isBlank).reverse

/-- The text without the blanks at its start and at its end. -/
def trim (text : List Char) : List Char := trimEnd (text.dropWhile isBlank)

/-- The maximal parts of the text that hold no blank. -/
def words (text : List Char) : List (List Char) :=
  (text.splitOnP isBlank).filter (! ·.isEmpty)

theorem words_nil : words [] = [] := by simp [words]

end StackCalculator.Text
