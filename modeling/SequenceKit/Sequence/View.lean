import SequenceKit.Sequence.Layer
import SequenceKit.Text.Record
import SequenceKit.TypeName.Basic
import SequenceKit.TypeName.Cache

/-!
# Views

A view looks at a sequence without owning it.  It is a sequence itself, by the layer that it
puts in front of its target, and it has some methods of its own besides, which go to the target
at once.  Making a view is logged.

* `View` — the target and the name of its type; `View.sequence` is the layer.
* `View.make`, `View.nested` — one view, and several each of the one before.
* `View.ownSize`, `View.ownIsEmpty`, … — the methods of its own.
* `View.copy`, `View.clone` — the same view again.
* `View.debugText` — the short name of the target's type, and its size.
-/

namespace SequenceKit

/-- A view of a sequence. -/
structure View (α : Type) where
  target : Sequence α
  /-- The name of the target's type. -/
  targetName : TypeName

namespace View

variable {α : Type}

/-- A view of a sequence whose type has the given name.  The log line tells the full name and the
size. -/
def make (name : TypeName) (s : Sequence α) : Traced (View α) := do
  Traced.log (.viewMade name.full (← s.size))
  return ⟨s, name⟩

/-- The view as a sequence. -/
def sequence [BEq α] (v : View α) : Sequence α :=
  v.target.wrap .view

/-- The name of the type of the view. -/
def name (v : View α) : TypeName :=
  .viewOf v.targetName

/-- A view of a sequence with `further` views on top, each of the one before. -/
def nested [BEq α] (name : TypeName) (s : Sequence α) : (further : Nat) → Traced (View α)
  | 0 => make name s
  | further + 1 => do
      let v ← nested name s further
      make v.name v.sequence

/-! ## Methods of its own -/

/-- The size of the target. -/
def ownSize (v : View α) : Traced Nat :=
  v.target.size

/-- Whether the target says that it is empty. -/
def ownIsEmpty (v : View α) : Traced Bool :=
  v.target.isEmpty

/-- The membership lookup of the target. -/
def ownContains (v : View α) (value : α) : Traced Bool :=
  v.target.contains value

/-- The index lookup of the target. -/
def ownIndex (v : View α) (value : α) : Traced Int :=
  v.target.index value

/-- The counting lookup of the target. -/
def ownCount (v : View α) (value : α) : Traced Nat :=
  v.target.count value

/-- The elements of the target, by its cursor. -/
def innerElements (v : View α) : Traced (List α) := do
  (← v.target.iter).collect

/-- The elements of the view, given away. -/
def intoElements (v : View α) : Traced (List α) := do
  (← v.target.iter).collect

/-! ## Copies -/

/-- A copy of a view, which looks at the same target. -/
def copy (v : View α) : View α :=
  ⟨v.target, v.targetName⟩

/-- A clone of a view, which is a copy. -/
def clone (v : View α) : View α :=
  v.copy

/-! ## Text -/

/-- The text that shows a view, and the remembered names afterwards.  The name is remembered before
the size is asked for, so a fault in the size does not undo it. -/
def debugText (v : View α) (names : NameCache) : Traced String × NameCache :=
  let (short, names) := names.shorten v.targetName.full
  (do return Text.record ("SequenceView<" ++ short ++ ">") [("size", toString (← v.target.size))],
    names)

/-- The texts of a copy and of a clone.  After a fault in the first the second is not asked for. -/
def copyText (v : View α) (names : NameCache) : Traced String × NameCache :=
  let (copied, names) := v.copy.debugText names
  let (cloned, later) := v.clone.debugText names
  (do return (← copied) ++ " " ++ (← cloned),
    match copied.outcome with
    | .ok _ => later
    | .error _ => names)

end View

end SequenceKit
