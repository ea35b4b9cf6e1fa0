import SequenceKit.Instrumented.Probe

/-!
# Tallies

A tally is a recording sequence that has a body of its own for every method.  The bodies work on
the elements directly and answer in ways that tell them apart from the default bodies: a missing
value has the index -7, emptiness is declared, there is no first and no last element, and a
refused range is not logged.

* `Tally` — the declared emptiness and the elements.
* `Tally.sequence` — the recording sequence.
-/

namespace SequenceKit

/-- A recording sequence with methods of its own. -/
structure Tally (α : Type) where
  declaredEmpty : Bool
  items : Array α

namespace Tally

variable {α : Type} [BEq α]

/-- A value, after a recorded call. -/
def answer {β : Type} (call : Call) (b : β) : Traced β := do
  Traced.record call
  return b

/-- The first position of a value. -/
def position? (t : Tally α) (value : α) : Option Nat :=
  t.items.toList.findIdx? (· == value)

/-- The index of a value, -7 for a missing one. -/
def index (t : Tally α) (value : α) : Int :=
  match t.position? value with
  | some i => i
  | none => -7

/-- The first position of a value in a range. -/
def indexBetween (t : Tally α) (value : α) (start stop : Nat) : Except LookupError Nat :=
  let len := t.items.size
  if start > stop || stop > len then .error (.invalidRange start stop len)
  else
    match ((t.items.toList.take stop).drop start).findIdx? (· == value) with
    | some i => .ok (start + i)
    | none => .error .valueNotFound

/-- The element at a position, checked against the number of elements. -/
def checkedAt (t : Tally α) (index : Nat) : Except LookupError α :=
  match t.items[index]? with
  | some a => .ok a
  | none => .error (.indexTooHigh index t.items.size)

/-- The recording sequence. -/
def sequence (t : Tally α) : Sequence α where
  size := answer .size t.items.size
  isEmpty := answer .isEmpty t.declaredEmpty
  iter := Recorded.iter t.items
  get := Recorded.get t.items
  contains value := answer .contains (t.items.toList.any (· == value))
  position value := answer .position (t.position? value)
  index value := answer .index (t.index value)
  count value := answer .count (t.items.toList.countP (· == value))
  indexBetween value start stop := answer .indexBetween (t.indexBetween value start stop)
  checkedAt index := answer .checkedAt (t.checkedAt index)
  first := answer .first none
  last := answer .last none

end Tally

end SequenceKit
