import SequenceKit.Storage.Pass

/-!
# Deques

A deque can be pushed and popped at both ends.  Its elements are kept in two lists that meet in
the middle, each with its own end of the deque at its head, so that both ends are at hand; how
the elements are spread over the two depends on the history.

* `Deque` — the two lists; `Deque.toList` — the elements in order.
* `pushFront`, `pushBack`, `popFront?`, `popBack?`, `rotateLeft`, `get?`, `pass`.
* One lemma for each says what it does to `toList`.
-/

namespace SequenceKit

/-- A queue with two ends. -/
structure Deque (α : Type) where
  /-- The front part, first element first. -/
  front : List α
  /-- The back part, last element first. -/
  back : List α
  deriving Inhabited

namespace Deque

variable {α σ : Type}

/-- The elements in order. -/
def toList (d : Deque α) : List α :=
  d.front ++ d.back.reverse

/-- A deque of given elements. -/
def ofList (items : List α) : Deque α :=
  ⟨items, []⟩

/-- No elements. -/
def empty : Deque α :=
  ⟨[], []⟩

/-- How many elements there are. -/
def size (d : Deque α) : Nat :=
  d.front.length + d.back.length

/-- The element at a position. -/
def get? (d : Deque α) (i : Nat) : Option α :=
  if i < d.front.length then d.front[i]?
  else if i < d.size then d.back[d.size - 1 - i]?
  else none

def pushFront (a : α) (d : Deque α) : Deque α :=
  { d with front := a :: d.front }

def pushBack (a : α) (d : Deque α) : Deque α :=
  { d with back := a :: d.back }

/-- The first element and the deque without it.  When the front part is used up, the back part
is turned over. -/
def popFront? (d : Deque α) : Option (α × Deque α) :=
  match d.front with
  | a :: rest => some (a, ⟨rest, d.back⟩)
  | [] =>
      match d.back.reverse with
      | a :: rest => some (a, ⟨rest, []⟩)
      | [] => none

/-- The last element and the deque without it.  When the back part is used up, the front part is
turned over. -/
def popBack? (d : Deque α) : Option (α × Deque α) :=
  match d.back with
  | a :: rest => some (a, ⟨d.front, rest⟩)
  | [] =>
      match d.front.reverse with
      | a :: rest => some (a, ⟨[], rest⟩)
      | [] => none

/-- Moves the first `n` elements behind the last, unless there are fewer. -/
def rotateLeft? (n : Nat) (d : Deque α) : Option (Deque α) :=
  if n ≤ d.size then some ⟨d.toList.drop n, (d.toList.take n).reverse⟩ else none

/-- A pass over all slots, the front part first. -/
def pass (p : Pass σ α) (s : σ) (d : Deque α) : σ × Deque α :=
  let (s', front) := p.onList s d.front
  let (s'', back) := p.onList s' d.back.reverse
  (s'', ⟨front, back.reverse⟩)

/-! ## What the operations do to the elements -/

@[simp] theorem toList_ofList (items : List α) : (ofList items).toList = items := by
  simp [toList, ofList]

@[simp] theorem length_toList (d : Deque α) : d.toList.length = d.size := by
  simp [toList, size]

@[simp] theorem toList_pushFront (a : α) (d : Deque α) :
    (d.pushFront a).toList = a :: d.toList := rfl

@[simp] theorem toList_pushBack (a : α) (d : Deque α) :
    (d.pushBack a).toList = d.toList ++ [a] := by
  simp [toList, pushBack]

theorem getElem?_toList (d : Deque α) (i : Nat) : d.toList[i]? = d.get? i := by
  unfold toList get? size
  split
  case isTrue h => rw [List.getElem?_append_left h]
  case isFalse h =>
    rw [List.getElem?_append_right (by omega)]
    split
    case isTrue h' =>
      rw [List.getElem?_reverse (by omega)]
      congr 1
      omega
    case isFalse h' => exact List.getElem?_eq_none (by simp; omega)

theorem toList_of_popFront? {d d' : Deque α} {a : α} (h : d.popFront? = some (a, d')) :
    d.toList = a :: d'.toList := by
  unfold popFront? at h
  split at h
  case h_1 first rest front =>
    obtain ⟨rfl, rfl⟩ := Prod.mk.inj (Option.some.inj h)
    rw [toList, front, List.cons_append, toList]
  case h_2 front =>
    split at h
    case h_1 first rest turned =>
      -- the back part was turned over, so it is in order now
      obtain ⟨rfl, rfl⟩ := Prod.mk.inj (Option.some.inj h)
      rw [toList, front, turned, List.nil_append, toList, List.reverse_nil, List.append_nil]
    case h_2 => cases h

theorem toList_of_popBack? {d d' : Deque α} {a : α} (h : d.popBack? = some (a, d')) :
    d.toList = d'.toList ++ [a] := by
  unfold popBack? at h
  split at h
  case h_1 last rest back =>
    obtain ⟨rfl, rfl⟩ := Prod.mk.inj (Option.some.inj h)
    rw [toList, back, List.reverse_cons, ← List.append_assoc, toList]
  case h_2 back =>
    split at h
    case h_1 last rest turned =>
      obtain ⟨rfl, rfl⟩ := Prod.mk.inj (Option.some.inj h)
      have front : d.front = rest.reverse ++ [last] := by
        rw [← List.reverse_cons, ← turned, List.reverse_reverse]
      rw [toList, front, back, List.reverse_nil, List.append_nil, toList, List.nil_append]
    case h_2 => cases h

theorem toList_of_popFront?_eq_none {d : Deque α} (h : d.popFront? = none) : d.toList = [] := by
  cases d with
  | mk front back =>
      cases front with
      | cons a rest => simp [popFront?] at h
      | nil =>
          simp only [popFront?] at h
          split at h
          case h_1 => simp at h
          case h_2 none_left => rw [toList, none_left, List.append_nil]

theorem toList_of_popBack?_eq_none {d : Deque α} (h : d.popBack? = none) : d.toList = [] := by
  cases d with
  | mk front back =>
      cases back with
      | cons a rest => simp [popBack?] at h
      | nil =>
          simp only [popBack?] at h
          split at h
          case h_1 => simp at h
          case h_2 none_left => rw [toList, List.reverse_eq_nil_iff.mp none_left]; rfl

/-- A rotation is refused exactly if it goes past the last element. -/
theorem rotateLeft?_eq_none_iff {n : Nat} {d : Deque α} :
    d.rotateLeft? n = none ↔ d.toList.length < n := by
  rw [rotateLeft?, length_toList]
  split <;> simp <;> omega

theorem toList_rotateLeft {n : Nat} {d d' : Deque α} (h : d.rotateLeft? n = some d') :
    d'.toList = d.toList.drop n ++ d.toList.take n := by
  unfold rotateLeft? at h
  split at h
  case isTrue =>
    obtain rfl := Option.some.inj h
    rw [toList, List.reverse_reverse]
  case isFalse => cases h

/-- A pass over the slots is a pass over the elements in order. -/
theorem pass_toList (p : Pass σ α) (s : σ) (d : Deque α) :
    ((d.pass p s).1, (d.pass p s).2.toList) = p.onList s d.toList := by
  simp [pass, toList, Pass.onList_append]

end Deque

end SequenceKit
