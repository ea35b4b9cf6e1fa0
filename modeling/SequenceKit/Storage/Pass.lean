/-!
# Passes with write access

A pass visits the slots of a container in order and may overwrite each.  It carries a state along,
so that what it does at one slot can depend on the slots before.

* `Pass` — what is done at a slot: the new state and the new element.
* `Pass.onList` — a pass over the elements of a list.
* `Pass.each`, `Pass.fill`, `Pass.put`, `Pass.replace`, `Pass.limit` — the passes in use.
-/

namespace SequenceKit

/-- What is done at a slot: from the state and the element to the new ones. -/
def Pass (σ α : Type) := σ → α → σ × α

namespace Pass

variable {σ α : Type}

/-- A pass over the elements of a list, from a state to the last state and the new elements. -/
def onList (p : Pass σ α) : σ → List α → σ × List α
  | s, [] => (s, [])
  | s, a :: rest =>
      let (s', a') := p s a
      let (s'', rest') := onList p s' rest
      (s'', a' :: rest')

/-- Changes every element by a function. -/
def each (f : α → α) : Pass Unit α :=
  fun s a => (s, f a)

/-- Overwrites every element with the same one. -/
def fill (a : α) : Pass Unit α :=
  each fun _ => a

/-- Overwrites the slot at a position.  The state is the position of the slot that is visited, and
the element that stood where one was overwritten. -/
def put (index : Nat) (a : α) : Pass (Nat × Option α) α := fun (i, old) b =>
  if i = index then ((i + 1, some b), a) else ((i + 1, old), b)

/-- Overwrites the elements that equal a value, and counts them. -/
def replace [BEq α] (value replacement : α) : Pass Nat α := fun n a =>
  if a == value then (n + 1, replacement) else (n, a)

/-- Overwrites the elements that are above a bound with the bound. -/
def limit (greater : α → α → Bool) (bound : α) : Pass Unit α :=
  each fun a => if greater a bound then bound else a

/-! ## Laws -/

/-- A pass over two lists in a row is two passes in a row. -/
theorem onList_append (p : Pass σ α) (s : σ) (as bs : List α) :
    p.onList s (as ++ bs) =
      ((p.onList (p.onList s as).1 bs).1,
        (p.onList s as).2 ++ (p.onList (p.onList s as).1 bs).2) := by
  induction as generalizing s with
  | nil => rfl
  | cons a rest ih => simp [onList, ih]

/-- Changing every element is mapping. -/
theorem onList_each (f : α → α) (as : List α) : (each f).onList () as = ((), as.map f) := by
  induction as with
  | nil => rfl
  | cons a rest ih =>
      show (let (s, as) := (each f).onList () rest; (s, f a :: as)) = _
      rw [ih, List.map_cons]

/-- Behind the position, overwriting a slot by position changes nothing. -/
theorem onList_put_of_lt {index i : Nat} (h : index < i) (a : α) (old : Option α) (as : List α) :
    (put index a).onList (i, old) as = ((i + as.length, old), as) := by
  induction as generalizing i with
  | nil => rfl
  | cons b rest ih =>
      have past : i ≠ index := by omega
      rw [onList, put, if_neg past]
      show (let (t, as) := (put index a).onList (i + 1, old) rest; (t, b :: as)) = _
      rw [ih (by omega), List.length_cons, Nat.add_right_comm, Nat.add_assoc]

/-- Overwriting a slot by position sets the element there and shows the one before. -/
theorem onList_put (i k : Nat) (a : α) (old : Option α) (as : List α) :
    (put (i + k) a).onList (i, old) as = ((i + as.length, as[k]?.or old), as.set k a) := by
  induction as generalizing i k with
  | nil => rfl
  | cons b rest ih =>
      cases k with
      | zero =>
          rw [onList, put, if_pos (Nat.add_zero i).symm]
          show (let (t, as) := (put (i + 0) a).onList (i + 1, some b) rest; (t, a :: as)) = _
          rw [onList_put_of_lt (by omega), List.length_cons, Nat.add_right_comm, Nat.add_assoc]
          rfl
      | succ k =>
          have before : i ≠ i + (k + 1) := by omega
          rw [onList, put, if_neg before]
          show (let (t, as) := (put (i + (k + 1)) a).onList (i + 1, old) rest; (t, b :: as)) = _
          rw [show i + (k + 1) = i + 1 + k by omega, ih, List.length_cons, Nat.add_right_comm,
            Nat.add_assoc]
          rfl

/-- Overwriting the elements that equal a value maps and counts them. -/
theorem onList_replace [BEq α] (value replacement : α) (n : Nat) (as : List α) :
    (replace value replacement).onList n as =
      (n + as.countP (· == value), as.map fun a => if a == value then replacement else a) := by
  induction as generalizing n with
  | nil => rfl
  | cons a rest ih =>
      rw [onList, List.countP_cons, List.map_cons, replace]
      cases a == value with
      | true =>
          show (let (t, as) := (replace value replacement).onList (n + 1) rest;
            (t, replacement :: as)) = _
          rw [ih, Nat.add_right_comm, Nat.add_assoc]
          rfl
      | false =>
          show (let (t, as) := (replace value replacement).onList n rest; (t, a :: as)) = _
          rw [ih]
          rfl

end Pass

end SequenceKit
