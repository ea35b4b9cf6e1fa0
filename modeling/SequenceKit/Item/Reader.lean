import SequenceKit.Grammar.Knot

/-!
# From tokens to items

* **`Item.ofTrees?`** — the item that trees declare, if they declare exactly one.
-/

namespace SequenceKit.Item

open SequenceKit.Source SequenceKit.Grammar

/-- The item that trees declare, if they declare exactly one. -/
def ofTrees? (trees : Trees) : Option Item :=
  match (item (Rules.forTrees trees)).run trees with
  | some (found, []) => some found
  | _ => none

end SequenceKit.Item
