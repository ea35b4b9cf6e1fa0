import SequenceKit.Sequence.Basic
import SequenceKit.Storage.Deque

/-!
# Stored elements

The containers that hold their elements: a row of slots side by side, or a deque.

* `Storage` — the two of them, and `Storage.toList`, their elements in order.
* `Storage.access` — size, cursor and read by position.
* `Storage.pass` — a pass with write access.
* `Storage.pushBack`, `Storage.popBack?` — the end that both have in common.
-/

namespace SequenceKit

/-- A container that holds its elements. -/
inductive Storage (α : Type) where
  | row (items : Array α)
  | deque (d : Deque α)
  deriving Inhabited

namespace Storage

variable {α σ : Type}

/-- The elements in order. -/
def toList : Storage α → List α
  | row items => items.toList
  | deque d => d.toList

/-- How many elements there are. -/
def size : Storage α → Nat
  | row items => items.size
  | deque d => d.size

/-- The element at a position, if there is one. -/
def get? : Storage α → Nat → Option α
  | row items, i => items[i]?
  | deque d, i => d.get? i

/-- The fault of a read at a position that holds no element. -/
def outOfBounds : Storage α → Nat → Fault
  | row items, i => .indexOutOfBounds i items.size
  | deque _, _ => .dequeOutOfBounds

/-- The element at a position; a position without an element is a fault. -/
def get (s : Storage α) (i : Nat) : Traced α :=
  match s.get? i with
  | some a => pure a
  | none => Traced.stop (s.outOfBounds i)

/-- Size, cursor and read by position. -/
def access (s : Storage α) : Access α where
  size := pure s.size
  iter := pure (.ofList [] s.toList)
  get := s.get

/-- A container of the same kind without elements. -/
def cleared : Storage α → Storage α
  | row _ => row #[]
  | deque _ => deque .empty

/-- Appends an element. -/
def pushBack (a : α) : Storage α → Storage α
  | row items => row (items.push a)
  | deque d => deque (d.pushBack a)

/-- The last element and the container without it. -/
def popBack? : Storage α → Option (α × Storage α)
  | row items => items.back?.map fun a => (a, row items.pop)
  | deque d => d.popBack?.map fun (a, d') => (a, deque d')

/-- A pass over all slots in order. -/
def pass (p : Pass σ α) (t : σ) : Storage α → σ × Storage α
  | row items =>
      let (t', items') := p.onList t items.toList
      (t', row items'.toArray)
  | deque d =>
      let (t', d') := d.pass p t
      (t', deque d')

/-! ## What the operations do to the elements -/

@[simp] theorem length_toList (s : Storage α) : s.toList.length = s.size := by
  cases s with
  | row items => simp [toList, size]
  | deque d => simp [toList, size]

theorem getElem?_toList (s : Storage α) (i : Nat) : s.toList[i]? = s.get? i := by
  cases s with
  | row items => simp [toList, get?]
  | deque d => exact d.getElem?_toList i

@[simp] theorem toList_cleared (s : Storage α) : s.cleared.toList = [] := by
  cases s <;> rfl

@[simp] theorem toList_pushBack (a : α) (s : Storage α) :
    (s.pushBack a).toList = s.toList ++ [a] := by
  cases s with
  | row items => simp [toList, pushBack]
  | deque d => simp [toList, pushBack]

theorem toList_of_popBack? {s s' : Storage α} {a : α} (h : s.popBack? = some (a, s')) :
    s.toList = s'.toList ++ [a] := by
  cases s with
  | row items =>
      obtain ⟨b, last, eq⟩ := Option.map_eq_some_iff.mp h
      cases eq
      rw [← Array.getLast?_toList] at last
      obtain ⟨init, eq⟩ := List.getLast?_eq_some_iff.mp last
      rw [toList, toList, Array.toList_pop, eq, List.dropLast_concat]
  | deque d =>
      obtain ⟨⟨b, d'⟩, last, eq⟩ := Option.map_eq_some_iff.mp h
      cases eq
      exact Deque.toList_of_popBack? last

theorem toList_of_popBack?_eq_none {s : Storage α} (h : s.popBack? = none) : s.toList = [] := by
  cases s with
  | row items =>
      have last := Option.map_eq_none_iff.mp h
      rw [← Array.getLast?_toList] at last
      exact List.getLast?_eq_none_iff.mp last
  | deque d => exact Deque.toList_of_popBack?_eq_none (Option.map_eq_none_iff.mp h)

/-- A pass over the slots is a pass over the elements in order. -/
theorem pass_toList (p : Pass σ α) (t : σ) (s : Storage α) :
    ((s.pass p t).1, (s.pass p t).2.toList) = p.onList t s.toList := by
  cases s with
  | row items => simp [pass, toList]
  | deque d => exact d.pass_toList p t

end Storage

end SequenceKit
