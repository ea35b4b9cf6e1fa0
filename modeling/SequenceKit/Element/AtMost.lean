/-!
# Numbers that are compared one way

`AtMost` wraps a number, but its comparison `a == b` means `a ≤ b`.  It is reflexive and not
symmetric, and so tells apart lookups that compare `element == value` from those that compare the
other way round.
-/

namespace SequenceKit

/-- A number that counts as equal to every number that it is at most. -/
structure AtMost where
  value : Int64
  deriving DecidableEq, Repr, Inhabited

namespace AtMost

instance : BEq AtMost where
  beq a b := a.value ≤ b.value

/-- Whether `a` is above `b`, in the usual order of numbers. -/
def greater (a b : AtMost) : Bool :=
  a.value > b.value

end AtMost

end SequenceKit
