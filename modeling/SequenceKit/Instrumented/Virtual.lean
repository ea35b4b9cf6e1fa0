import SequenceKit.Sequence.Basic
import SequenceKit.Storage.Basic

/-!
# Virtual sequences

Sequences that claim more elements than they hold.

* `Cyclic` — elements repeated up to a declared size.
* `Distant` — stored elements whose position lookup answers with one far position.
-/

namespace SequenceKit

/-- Elements repeated up to a declared size. -/
structure Cyclic (α : Type) where
  declaredSize : Nat
  items : Array α

namespace Cyclic

variable {α : Type}

/-- The element at a position, which is not checked against the size. -/
def get (c : Cyclic α) (i : Nat) : Traced α :=
  match c.items[i % c.items.size]? with
  | some a => pure a
  | none => Traced.stop .nothingToRepeat

/-- The cursor over the repeated elements; none if there is nothing to repeat. -/
def cursor (c : Cyclic α) : Cursor α :=
  if h : 0 < c.items.size then
    let repeated (i : Nat) : α :=
      have lt : i % c.items.size < c.items.size := Nat.mod_lt i h
      c.items[i % c.items.size]
    .ofPositions repeated 0 c.declaredSize
  else .done []

/-- The sequence, with default lookups only. -/
def sequence [BEq α] (c : Cyclic α) : Sequence α :=
  Access.sequence
    { size := pure c.declaredSize
      iter := pure c.cursor
      get := c.get }

end Cyclic

/-- Stored elements whose position lookup answers with one far position for every value that is
there. -/
structure Distant (α : Type) where
  position : Nat
  items : Array α

namespace Distant

variable {α : Type} [BEq α]

/-- The sequence; only its position lookup is its own. -/
def sequence (d : Distant α) : Sequence α :=
  (Storage.row d.items).access.sequence.withPosition fun value =>
    pure (if d.items.toList.any (· == value) then some d.position else none)

end Distant

end SequenceKit
