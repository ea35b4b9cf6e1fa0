import SequenceKit.Cursor
import SequenceKit.LookupError

/-!
# Sequences

A sequence is a finite ordered collection that knows its size, can be run over with a cursor, and
can be read by position.  From these three alone come six lookups and the reads of both ends.
An implementor may give any of them a body of its own, and nothing makes the three agree with one
another, so a sequence is a record of methods.

* `Access` — size, emptiness, cursor and read by position.
* `Sequence` — with the lookups and the reads of both ends.
* `Access.position`, `Access.contains`, … — the default bodies.
* **`Access.sequence`** — the sequence that has only default bodies.

An element is always compared as `element == value`; the comparison need be neither reflexive nor
symmetric.
-/

namespace SequenceKit

/-- What a sequence has to provide. -/
structure Access (α : Type) where
  size : Traced Nat
  /-- Whether there is no element. -/
  isEmpty : Traced Bool := do return (← size) == 0
  /-- A cursor at the first element. -/
  iter : Traced (Cursor α)
  /-- The element at a position. -/
  get : Nat → Traced α

/-- A sequence, as what its methods do. -/
structure Sequence (α : Type) extends Access α where
  /-- Whether an element equals the value. -/
  contains : α → Traced Bool
  /-- The first position of the value. -/
  position : α → Traced (Option Nat)
  /-- The first position of the value, or -1. -/
  index : α → Traced Int
  /-- How many elements equal the value. -/
  count : α → Traced Nat
  /-- The first position of the value in a range. -/
  indexBetween : α → (start stop : Nat) → Traced (Except LookupError Nat)
  /-- The element at a position, checked against the size. -/
  checkedAt : Nat → Traced (Except LookupError α)
  first : Traced (Option α)
  last : Traced (Option α)

/-- The largest position that an index lookup can answer with, `2 ^ 63 - 1`. -/
def maxIndex : Nat :=
  9223372036854775807

/-- The answer of an index lookup from a position: -1 stands for none, and a position that is too
large is a fault. -/
def signedIndex : Option Nat → Traced Int
  | none => pure (-1)
  | some i => if i ≤ maxIndex then pure i else Traced.stop .positionOverflow

/-- The first of `count` positions from `start` on at which an element equals the value.  Nothing
is read behind the first such position. -/
def firstMatch {α : Type} [BEq α] (get : Nat → Traced α) (value : α) :
    (start count : Nat) → Traced (Option Nat)
  | _, 0 => pure none
  | start, count + 1 => do
      if (← get start) == value then return some start
      else firstMatch get value (start + 1) count

namespace Access

variable {α : Type} (s : Access α)

/-! ## Default lookups -/

/-- One pass of the cursor, up to the first equal element. -/
def contains [BEq α] (value : α) : Traced Bool := do
  (← s.iter).any (· == value)

/-- Reads by position from the front, up to the first equal element. -/
def position [BEq α] (value : α) : Traced (Option Nat) := do
  firstMatch s.get value 0 (← s.size)

/-- One whole pass of the cursor. -/
def count [BEq α] (value : α) : Traced Nat := do
  (← s.iter).count (· == value)

/-- Reads by position within the range, up to the first equal element.  A range that is reversed
or reaches past the end is refused, and the refusal is logged. -/
def indexBetween [BEq α] (value : α) (start stop : Nat) : Traced (Except LookupError Nat) := do
  let len ← s.size
  if start > stop || stop > len then
    Traced.log (.rangeRejected start stop len)
    return .error (.invalidRange start stop len)
  match ← firstMatch s.get value start (stop - start) with
  | some i => return .ok i
  | none => return .error .valueNotFound

/-! ## Default reads -/

/-- A read by position, once the position is known to be below the size. -/
def checkedAt (index : Nat) : Traced (Except LookupError α) := do
  let len ← s.size
  if index ≥ len then return .error (.indexTooHigh index len)
  return .ok (← s.get index)

/-- The element at position 0, unless the sequence says that it is empty. -/
def first : Traced (Option α) := do
  if ← s.isEmpty then return none
  return some (← s.get 0)

/-- The element at the position below the size, unless the size is 0. -/
def last : Traced (Option α) := do
  let len ← s.size
  if len > 0 then return some (← s.get (← Word.sub len 1))
  return none

/-- The position below the size is worked out only where there is one. -/
theorem last_eq : s.last = do
    let len ← s.size
    if len > 0 then return some (← s.get (len - 1))
    return none := by
  refine congrArg (s.size >>= ·) (funext fun len => ?_)
  by_cases pos : len > 0
  · rw [if_pos pos, if_pos pos, Word.sub_of_le pos, pure_bind]
  · rw [if_neg pos, if_neg pos]

/-- The sequence that has only default bodies. -/
def sequence [BEq α] (s : Access α) : Sequence α where
  toAccess := s
  contains := s.contains
  position := s.position
  index value := do signedIndex (← s.position value)
  count := s.count
  indexBetween := s.indexBetween
  checkedAt := s.checkedAt
  first := s.first
  last := s.last

end Access

namespace Sequence

variable {α : Type}

/-- A sequence with a position lookup of its own.  The index lookup follows it. -/
def withPosition (s : Sequence α) (position : α → Traced (Option Nat)) : Sequence α :=
  { s with
    position
    index := fun value => do signedIndex (← position value) }

/-- Membership, as any container offers it: a sequence answers with its own lookup. -/
def hasMember (s : Sequence α) (value : α) : Traced Bool :=
  s.contains value

end Sequence

end SequenceKit
