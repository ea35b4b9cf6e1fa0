/-!
# The methods of a sequence

* `Method` — the methods a sequence offers, the traversal with write access among them.
* `Method.name` — what a method is called.
-/

namespace SequenceKit

/-- A method that a sequence offers. -/
inductive Method where
  | size
  | isEmpty
  | iter
  /-- The traversal with write access. -/
  | iterMut
  /-- The read by position. -/
  | get
  | contains
  | position
  | index
  | count
  | indexBetween
  | checkedAt
  | first
  | last
  deriving DecidableEq, Repr

/-- What a method is called. -/
def Method.name : Method → String
  | size => "size"
  | isEmpty => "is_empty"
  | iter => "iter"
  | iterMut => "iter_mut"
  | get => "at"
  | contains => "contains"
  | position => "position"
  | index => "index"
  | count => "count"
  | indexBetween => "index_between"
  | checkedAt => "checked_at"
  | first => "first"
  | last => "last"

end SequenceKit
