import SequenceKit.Derive.Capability
import SequenceKit.Sequence.Basic

/-!
# Layers

A layer stands in front of a sequence and is a sequence itself.  It forwards certain methods to
the sequence behind it; for every other method it has the default body, run over the layer.

* `Sequence.forwarding` — the layer that forwards given methods.
* `Layer` — the two kinds of layers, and `Layer.methods`, what each forwards.
* `Sequence.wrap`, `Sequence.stack` — one layer, and several.

Size, cursor and read by position have no default body, so every layer forwards them.
-/

namespace SequenceKit

variable {α : Type}

/-- What a layer provides by itself: size, cursor and read by position, forwarded. -/
def Access.forwarding (methods : List Method) (s : Access α) : Access α :=
  let plain : Access α := { size := s.size, iter := s.iter, get := s.get }
  if .isEmpty ∈ methods then { plain with isEmpty := s.isEmpty } else plain

/-- The layer that forwards the given methods to `s` and has default bodies for the others. -/
def Sequence.forwarding [BEq α] (methods : List Method) (s : Sequence α) : Sequence α :=
  let own := s.toAccess.forwarding methods
  let position := if .position ∈ methods then s.position else own.position
  { toAccess := own
    position
    contains := if .contains ∈ methods then s.contains else own.contains
    index :=
      if .index ∈ methods then s.index else fun value => do signedIndex (← position value)
    count := if .count ∈ methods then s.count else own.count
    indexBetween := if .indexBetween ∈ methods then s.indexBetween else own.indexBetween
    checkedAt := if .checkedAt ∈ methods then s.checkedAt else own.checkedAt
    first := if .first ∈ methods then s.first else own.first
    last := if .last ∈ methods then s.last else own.last }

/-- The kinds of layers. -/
inductive Layer where
  /-- A view, which looks at a sequence that it does not own. -/
  | view
  /-- A newtype, which wraps a sequence and takes over its capabilities. -/
  | newtype
  deriving DecidableEq, Repr

/-- The methods that a view forwards. -/
def viewMethods : List Method :=
  [.size, .iter, .get, .contains, .position, .index, .count, .indexBetween, .checkedAt]

/-- The capabilities of a newtype that is a sequence. -/
def newtypeCapabilities : List Capability :=
  [.size, .constIterable, .randomAccess, .sequence]

/-- The methods that a layer forwards. -/
def Layer.methods : Layer → List Method
  | view => viewMethods
  | newtype => newtypeCapabilities.flatMap Capability.methods

namespace Sequence

/-- A sequence behind one layer. -/
def wrap [BEq α] (layer : Layer) (s : Sequence α) : Sequence α :=
  s.forwarding layer.methods

/-- A sequence behind several layers, the outermost first. -/
def stack [BEq α] (layers : List Layer) (s : Sequence α) : Sequence α :=
  layers.foldr wrap s

end Sequence

end SequenceKit
