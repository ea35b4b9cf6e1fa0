import SequenceKit.Element.Basic

/-!
# Ordered sets

A finite set whose elements are kept in ascending order.  Two elements count as the same when
neither is above the other.

* `OrderedSet` — the elements, ascending.
* `insert`, `erase`, `contains`, `ofList`.
-/

namespace SequenceKit

/-- A finite set, kept in ascending order. -/
structure OrderedSet (α : Type) where
  items : List α
  deriving Inhabited

namespace OrderedSet

variable {α : Type} [Element α]

/-- No elements. -/
def empty : OrderedSet α :=
  ⟨[]⟩

/-- How many elements there are. -/
def size (s : OrderedSet α) : Nat :=
  s.items.length

/-- Whether an element is in an ascending list; what is above it need not be looked at. -/
def search (a : α) : List α → Bool
  | [] => false
  | b :: rest =>
      if Element.greater a b then search a rest
      else !Element.greater b a

/-- Whether an element is in the set. -/
def contains (s : OrderedSet α) (a : α) : Bool :=
  search a s.items

/-- Puts an element at its place in an ascending list; one that is there already stays. -/
def place (a : α) : List α → List α
  | [] => [a]
  | b :: rest =>
      if Element.greater a b then b :: place a rest
      else if Element.greater b a then a :: b :: rest
      else b :: rest

/-- The set with an element, and whether it is new. -/
def insert (s : OrderedSet α) (a : α) : Bool × OrderedSet α :=
  (!s.contains a, ⟨place a s.items⟩)

/-- Takes an element out of an ascending list. -/
def remove (a : α) : List α → List α
  | [] => []
  | b :: rest =>
      if Element.greater a b then b :: remove a rest
      else if Element.greater b a then b :: rest
      else rest

/-- The set without an element, and whether it was there. -/
def erase (s : OrderedSet α) (a : α) : Bool × OrderedSet α :=
  (s.contains a, ⟨remove a s.items⟩)

/-- The set of given elements. -/
def ofList (items : List α) : OrderedSet α :=
  items.foldl (fun s a => (s.insert a).2) empty

end OrderedSet

end SequenceKit
