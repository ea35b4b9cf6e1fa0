import SequenceKit.Sequence.Layer
import SequenceKit.Storage.Basic

/-!
# Kinds of containers

A container is stored elements behind any number of layers.  What can be done with it follows
from how it stores its elements and what lies in front of them.

* `Shape` — how elements are stored, and what that admits.
* `Kind` — a shape and its layers; `Kind.writable`, `Kind.growable`, … say what it admits.
* `Kind.store` — new elements, stored.
* `Kind.sequence` — the container as a sequence.
-/

namespace SequenceKit

/-- How a container stores its elements. -/
inductive Shape where
  /-- An immutable list. -/
  | frozen
  /-- A row of slots that can grow at its end. -/
  | growing
  /-- A row of slots that belongs to someone else. -/
  | slice
  /-- A row of slots of a fixed number. -/
  | fixed
  /-- A deque. -/
  | deque
  deriving DecidableEq, Repr

/-- A kind of container: how it stores its elements, and the layers in front of them, the
outermost first. -/
structure Kind where
  shape : Shape
  layers : List Layer
  deriving DecidableEq, Repr

namespace Kind

variable {α : Type}

/-- Whether the container owns its elements; one that looks through a view does not. -/
def owns (k : Kind) : Bool :=
  k.shape != .slice && !k.layers.contains .view

/-- Whether its slots can be written to. -/
def writable (k : Kind) : Bool :=
  k.shape != .frozen && !k.layers.contains .view

/-- Whether elements can be pushed and popped at the end. -/
def growable (k : Kind) : Bool :=
  (k.shape == .growing || k.shape == .deque) && k.owns

/-- Whether elements can be pushed and popped at the front. -/
def hasFront (k : Kind) : Bool :=
  k.shape == .deque && k.owns

/-- Whether the container can be copied with one more element. -/
def extensible (k : Kind) : Bool :=
  k.shape == .growing && k.owns

/-- Whether it is an immutable list itself. -/
def isList (k : Kind) : Bool :=
  k.shape == .frozen && k.layers.isEmpty

/-- Stores new elements. -/
def store (k : Kind) (items : List α) : Storage α :=
  match k.shape with
  | .deque => .deque (.ofList items)
  | _ => .row items.toArray

/-- The container as a sequence: default lookups over the stored elements, behind the layers. -/
def sequence [BEq α] (k : Kind) (s : Storage α) : Sequence α :=
  s.access.sequence.stack k.layers

end Kind

end SequenceKit
