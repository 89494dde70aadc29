/-!
# Sets of characters given by code point ranges

The character classes of this library are finite unions of ranges of code points, written down as
lists in ascending order.  Membership is decided by looking through the list; the lists are short
for the classes that are asked about often, and the long ones are asked only about characters
outside ASCII.
-/

set_option autoImplicit false

namespace StackCalculator.Text

/-- The code points from the first to the second, both included. -/
abbrev CodeRange := Nat × Nat

/-- Whether a character lies in one of the ranges. -/
def isIn (ranges : List CodeRange) (c : Char) : Bool :=
  ranges.any fun range => range.1 ≤ c.toNat && c.toNat ≤ range.2

end StackCalculator.Text
