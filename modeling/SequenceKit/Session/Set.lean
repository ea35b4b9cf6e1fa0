import SequenceKit.FiniteSet.Ordered
import SequenceKit.FiniteSet.Unordered
import SequenceKit.Session.Step

/-!
# Sessions on sets

Sets are containers that can be run over but not read by position, so they know few steps.

* `SetSubject` — an ordered or an unordered set.
* `SetStep` — the steps.
* **`SetSubject.run`** — all steps in order.
-/

namespace SequenceKit

/-- What the steps run on. -/
inductive SetSubject (α : Type) where
  | ordered (s : OrderedSet α)
  | unordered (s : UnorderedSet α)

/-- A step on a set. -/
inductive SetStep (α : Type) where
  | size
  | isEmpty
  | contains (value : α)
  /-- The elements, ascending. -/
  | elements
  | insert (value : α)
  | remove (value : α)
  /-- A step that no set knows. -/
  | unknown

namespace SetSubject

variable {α : Type} [BEq α] [Element α]

/-- How many elements there are. -/
def size : SetSubject α → Nat
  | ordered s => s.size
  | unordered s => s.size

/-- Whether an element is in the set. -/
def contains : SetSubject α → α → Bool
  | ordered s, a => s.contains a
  | unordered s, a => s.contains a

/-- The elements, ascending. -/
def toList : SetSubject α → List α
  | ordered s => s.items
  | unordered s => s.sorted

/-- The set with an element, and whether it is new. -/
def insert (a : α) : SetSubject α → Bool × SetSubject α
  | ordered s =>
      let (new, s') := s.insert a
      (new, ordered s')
  | unordered s =>
      let (new, s') := s.insert a
      (new, unordered s')

/-- The set without an element, and whether it was there. -/
def erase (a : α) : SetSubject α → Bool × SetSubject α
  | ordered s =>
      let (found, s') := s.erase a
      (found, ordered s')
  | unordered s =>
      let (found, s') := s.erase a
      (found, unordered s')

/-- One step: its report, and the set afterwards. -/
def step (s : SetSubject α) : SetStep α → Report α × SetSubject α
  | .size => (.ofAnswer (.number s.size), s)
  | .isEmpty => (.ofAnswer (.truth (s.size == 0)), s)
  | .contains value => (.ofAnswer (.truth (s.contains value)), s)
  | .elements => (.ofAnswer (.elements s.toList), s)
  | .insert value =>
      let (new, s') := s.insert value
      (.ofAnswer (.truth new), s')
  | .remove value =>
      let (found, s') := s.erase value
      (.ofAnswer (.truth found), s')
  | .unknown => (.unsupported, s)

/-- All steps in order, each on what the ones before have left. -/
def run (s : SetSubject α) : List (SetStep α) → List (Report α)
  | [] => []
  | st :: later =>
      let (report, s') := s.step st
      report :: run s' later

end SetSubject

end SequenceKit
