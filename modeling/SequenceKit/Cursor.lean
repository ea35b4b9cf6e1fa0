import SequenceKit.Word

/-!
# Cursors

A cursor runs once over the elements of a sequence.  Each advance yields an element or finds the
end, may leave marks, and may stop with a fault.  What comes after an advance is worked out only
when it is asked for, so that a cursor over very many elements costs no more than the part that
is read.

* `Cursor` — what is left of a run, as a finite chain of advances.
* `Cursor.ofList` — the cursor over given elements.
* `Cursor.any`, `Cursor.count`, `Cursor.take`, `Cursor.collect` — the ways to read one.
-/

namespace SequenceKit

/-- What is left of a run over elements. -/
inductive Cursor (α : Type) where
  /-- The next advance finds the end. -/
  | done (marks : List Event)
  /-- The next advance stops with a fault. -/
  | stuck (marks : List Event) (fault : Fault)
  /-- The next advance yields an element. -/
  | yield (marks : List Event) (a : α) (rest : Unit → Cursor α)

namespace Cursor

variable {α : Type}

/-- The cursor over given elements, each advance leaving the same marks. -/
def ofList (marks : List Event) : List α → Cursor α
  | [] => done marks
  | a :: rest => yield marks a fun _ => ofList marks rest

/-- The cursor over the first `count` of elements that are given by their positions from
`start` on. -/
def ofPositions (element : Nat → α) : (start count : Nat) → Cursor α
  | _, 0 => done []
  | start, count + 1 => yield [] (element start) fun _ => ofPositions element (start + 1) count

/-- Whether an element passes a test; advances up to the first that does. -/
def any (p : α → Bool) : Cursor α → Traced Bool
  | done marks => ⟨marks, .ok false⟩
  | stuck marks fault => ⟨marks, .error fault⟩
  | yield marks a rest =>
      if p a then ⟨marks, .ok true⟩ else (any p (rest ())).after marks

/-- How many elements pass a test, on top of `n` that have been counted.  Every element adds one or
nothing to the number, which stays a word or stops the pass. -/
def countFrom (p : α → Bool) : Cursor α → (n : Nat) → Traced Nat
  | done marks, n => ⟨marks, .ok n⟩
  | stuck marks fault, _ => ⟨marks, .error fault⟩
  | yield marks a rest, n =>
      (Word.add n (if p a then 1 else 0) >>= countFrom p (rest ())).after marks

/-- How many elements pass a test; advances to the end, unless they are too many for a word. -/
def count (p : α → Bool) (c : Cursor α) : Traced Nat :=
  c.countFrom p 0

/-- All elements; advances to the end. -/
def collect : Cursor α → Traced (List α)
  | done marks => ⟨marks, .ok []⟩
  | stuck marks fault => ⟨marks, .error fault⟩
  | yield marks a rest => ((a :: ·) <$> collect (rest ())).after marks

/-- The first elements, at most `n` of them; advances no further than that. -/
def take : (n : Nat) → Cursor α → Traced (List α)
  | 0, _ => ⟨[], .ok []⟩
  | _ + 1, done marks => ⟨marks, .ok []⟩
  | _ + 1, stuck marks fault => ⟨marks, .error fault⟩
  | n + 1, yield marks a rest => ((a :: ·) <$> take n (rest ())).after marks

end Cursor

end SequenceKit
