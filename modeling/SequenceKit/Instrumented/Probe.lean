import SequenceKit.Sequence.Basic

/-!
# Probes

A probe is a sequence that records the calls made on it.  Its size is declared and need not agree
with its elements; all its lookups are the default bodies, so that the calls they make come to
light.

* `Probe` — the declared size and the elements.
* `Probe.sequence` — the recording sequence.
* `Recorded.iter`, `Recorded.get` — recorded runs and reads, over any elements.
-/

namespace SequenceKit

namespace Recorded

variable {α : Type}

/-- A cursor over elements.  Making it is recorded, and every advance. -/
def iter (items : Array α) : Traced (Cursor α) := do
  Traced.record .iter
  return .ofList [.call .next] items.toList

/-- A read by position, recorded before it may stop with a fault. -/
def get (items : Array α) (i : Nat) : Traced α := do
  Traced.record (.get i)
  match items[i]? with
  | some a => return a
  | none => Traced.stop (.indexOutOfBounds i items.size)

end Recorded

/-- A recording sequence whose size is declared. -/
structure Probe (α : Type) where
  declaredSize : Nat
  items : Array α

namespace Probe

variable {α : Type}

/-- The declared size, recorded. -/
def size (p : Probe α) : Traced Nat := do
  Traced.record .size
  return p.declaredSize

/-- What a probe provides. -/
def access (p : Probe α) : Access α where
  size := p.size
  iter := Recorded.iter p.items
  get := Recorded.get p.items

/-- The recording sequence, with default lookups only. -/
def sequence [BEq α] (p : Probe α) : Sequence α :=
  p.access.sequence

end Probe

end SequenceKit
