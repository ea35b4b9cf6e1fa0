/-!
# Character classes as ranges

A class of characters beyond ASCII is a list of ranges of code points, each with both its ends.

* `Ranges` and `Ranges.holds` — the list and its membership test.
-/

namespace SequenceKit.Text

/-- Ranges of code points, each with both its ends. -/
abbrev Ranges := List (Nat × Nat)

/-- Whether a code point lies in one of the ranges. -/
def Ranges.holds (ranges : Ranges) (code : Nat) : Bool :=
  ranges.any fun range => range.1 ≤ code && code ≤ range.2

end SequenceKit.Text
