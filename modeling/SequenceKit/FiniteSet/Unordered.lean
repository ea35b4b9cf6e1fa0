import SequenceKit.Element.Basic

/-!
# Unordered sets

A finite set whose elements are kept in no particular order, each once.

* `UnorderedSet` — the elements.
* `insert`, `erase`, `contains`, `ofList`.
* `UnorderedSet.sorted` — the elements in ascending order, which does not depend on how they are
  kept.
-/

namespace SequenceKit

/-- A finite set, kept in no particular order. -/
structure UnorderedSet (α : Type) where
  items : List α
  deriving Inhabited

namespace UnorderedSet

variable {α : Type} [BEq α] [Element α]

/-- No elements. -/
def empty : UnorderedSet α :=
  ⟨[]⟩

/-- How many elements there are. -/
def size (s : UnorderedSet α) : Nat :=
  s.items.length

/-- Whether an element is in the set. -/
def contains (s : UnorderedSet α) (a : α) : Bool :=
  s.items.any (· == a)

/-- The set with an element, and whether it is new. -/
def insert (s : UnorderedSet α) (a : α) : Bool × UnorderedSet α :=
  if s.contains a then (false, s) else (true, ⟨a :: s.items⟩)

/-- The set without an element, and whether it was there. -/
def erase (s : UnorderedSet α) (a : α) : Bool × UnorderedSet α :=
  (s.contains a, ⟨s.items.filter (!· == a)⟩)

/-- The set of given elements. -/
def ofList (items : List α) : UnorderedSet α :=
  items.foldl (fun s a => (s.insert a).2) empty

/-- The elements in ascending order. -/
def sorted (s : UnorderedSet α) : List α :=
  s.items.mergeSort fun a b => !Element.greater a b

end UnorderedSet

end SequenceKit
