import SequenceKit.Sequence.Basic

/-!
# Walking backward

A backward walk over a sequence can be moved from both ends.  It remembers the range of positions
that it has not asked for yet.  A position leaves the range before the element at it is read, so
that a read that stops with a fault is not tried again.

* `Reversed` — the remaining range; that its ends do not cross is part of the type.
* `Walk` — a computation that moves, and keeps the range also when it stops with a fault.
* `Walk.pull`, `Walk.nth`, `Walk.drain` — the moves, from either end.
* `Move`, `Move.run` — the moves as data.
* **`Sequence.walk`** — a walk through a list of moves; a fault ends only its own move.
-/

namespace SequenceKit

/-- The positions that a backward walk has not asked for: from `front` up to but without
`back`. -/
structure Reversed where
  /-- The next position from the front end. -/
  front : Nat
  /-- One past the next position from the back end. -/
  back : Nat
  front_le_back : front ≤ back

namespace Reversed

/-- The whole range of a sequence of the given size. -/
def ofSize (size : Nat) : Reversed :=
  ⟨0, size, Nat.zero_le size⟩

/-- How many positions are left, as a measure of the range.  What a walk answers with is worked out
by `Walk.remaining`. -/
def len (r : Reversed) : Nat :=
  r.back - r.front

end Reversed

/-- The two ends of a sequence.  A backward walk starts at the back. -/
inductive Side where
  | front
  | back
  deriving DecidableEq, Repr

/-! ## Moving -/

/-- A computation on a remaining range: what it leaves behind, and the range afterwards. -/
def Walk (α : Type) := Reversed → Traced α × Reversed

namespace Walk

variable {α β : Type}

/-- A value, without a move. -/
protected def pure (a : α) : Walk α :=
  fun r => (Traced.pure a, r)

/-- One walk after another.  If the first stops with a fault, the range stays as it left it. -/
protected def bind (w : Walk α) (f : α → Walk β) : Walk β := fun r =>
  match (w r).1.outcome with
  | .ok a =>
      let (x, r'') := f a (w r).2
      (x.after (w r).1.trace, r'')
  | .error e => (⟨(w r).1.trace, .error e⟩, (w r).2)

instance : Monad Walk where
  pure := Walk.pure
  bind := Walk.bind

/-- Behind a walk that has done nothing there is what follows it. -/
theorem bind_of_eq {w : Walk α} {r : Reversed} {a : α} (h : w r = (pure a, r)) (f : α → Walk β) :
    (w >>= f) r = f a r := by
  show Walk.bind w f r = _
  rw [Walk.bind, h]
  rfl

/-- Takes the next position from one end and reads it; nothing when none is left.  Each end moves by
a step towards the other. -/
def pull (get : Nat → Traced α) (side : Side) : Walk (Option α) := fun r =>
  if h : r.front = r.back then (pure none, r)
  else
    have lt : r.front < r.back := Nat.lt_of_le_of_ne r.front_le_back h
    match side with
    | .back =>
        let back := Word.pred r.back lt
        (some <$> get back, ⟨r.front, back, Word.le_pred lt⟩)
    | .front =>
        let front := Word.succ r.front lt
        (some <$> get r.front, ⟨front, r.back, Word.succ_le lt⟩)

/-- Skips `k` elements from one end and takes one more; nothing when they run out. -/
def nth (get : Nat → Traced α) (side : Side) : (k : Nat) → Walk (Option α)
  | 0 => pull get side
  | k + 1 => do
      match ← pull get side with
      | none => return none
      | some _ => nth get side k

/-- Takes elements from one end until none is left, at most `fuel` of them. -/
def drainUpTo (get : Nat → Traced α) (side : Side) : (fuel : Nat) → Walk (List α)
  | 0 => return []
  | fuel + 1 => do
      match ← pull get side with
      | none => return []
      | some a => return a :: (← drainUpTo get side fuel)

/-- Takes elements from one end until none is left. -/
def drain (get : Nat → Traced α) (side : Side) : Walk (List α) := fun r =>
  drainUpTo get side r.len r

/-- How many elements are left; no move. -/
def remaining : Walk Nat := fun r =>
  (Word.sub r.back r.front, r)

/-! ### Steps -/

section Steps

variable (get : Nat → Traced α) {r : Reversed}

theorem pull_of_used (side : Side) (used : r.front = r.back) :
    pull get side r = (pure none, r) :=
  dif_pos used

theorem pull_back (lt : r.front < r.back) : pull get .back r =
    (some <$> get (r.back - 1), ⟨r.front, r.back - 1, Nat.le_sub_one_of_lt lt⟩) :=
  dif_neg (Nat.ne_of_lt lt)

theorem pull_front (lt : r.front < r.back) : pull get .front r =
    (some <$> get r.front, ⟨r.front + 1, r.back, lt⟩) :=
  dif_neg (Nat.ne_of_lt lt)

end Steps

/-- The ends do not cross, so their difference is a word. -/
theorem remaining_eq (r : Reversed) : remaining r = (pure r.len, r) :=
  congrArg (·, r) (Word.sub_of_le r.front_le_back)

end Walk

/-! ## Moves as data -/

/-- A move of a backward walk. -/
inductive Move where
  | next
  | nextBack
  /-- Skips elements and takes one. -/
  | nth (k : Nat)
  /-- The same from the other end. -/
  | nthBack (k : Nat)
  | len
  | sizeHint
  /-- Takes all that is left. -/
  | rest
  /-- Takes all that is left, from the other end. -/
  | restBack
  /-- Takes all that is left and answers with its number. -/
  | count
  /-- Takes all that is left and answers with the last of it. -/
  | last
  deriving DecidableEq, Repr

/-- The answer of a move. -/
inductive MoveAnswer (α : Type) where
  | element (a : Option α)
  | number (n : Nat)
  | bounds (low high : Nat)
  | elements (as : List α)

/-- What a move does.  A backward walk goes forth at the back end of the sequence. -/
def Move.run {α : Type} (get : Nat → Traced α) : Move → Walk (MoveAnswer α)
  | next => do return .element (← Walk.pull get .back)
  | nextBack => do return .element (← Walk.pull get .front)
  | nth k => do return .element (← Walk.nth get .back k)
  | nthBack k => do return .element (← Walk.nth get .front k)
  | len => do return .number (← Walk.remaining)
  | sizeHint => do
      let left ← Walk.remaining
      return .bounds left left
  | rest => do return .elements (← Walk.drain get .back)
  | restBack => do return .elements (← Walk.drain get .front)
  | count => do return .number (← Walk.drain get .back).length
  | last => do return .element (← Walk.drain get .back).getLast?

section Lengths

variable {α : Type} (get : Nat → Traced α) (r : Reversed)

theorem Move.run_len : len.run get r = (pure (.number r.len), r) :=
  Walk.bind_of_eq (Walk.remaining_eq r) _

theorem Move.run_sizeHint : sizeHint.run get r = (pure (.bounds r.len r.len), r) :=
  Walk.bind_of_eq (Walk.remaining_eq r) _

end Lengths

/-- Runs moves one after the other, each from the range that the one before has left.  A fault is
the answer of its move. -/
def Move.runAll {α : Type} (get : Nat → Traced α) :
    List Move → Reversed → Traced (List (Except Fault (MoveAnswer α)))
  | [], _ => pure []
  | m :: later, r =>
      let (x, r') := m.run get r
      ((x.outcome :: ·) <$> runAll get later r').after x.trace

namespace Sequence

variable {α : Type} (s : Sequence α)

/-- A backward walk from the start, which asks for the size once. -/
def reversed : Traced Reversed := do
  return .ofSize (← s.size)

/-- All elements of a backward walk. -/
def backward : Traced (List α) := do
  let r ← s.reversed
  (Walk.drain s.get .back r).1

/-- A backward walk through a list of moves. -/
def walk (moves : List Move) : Traced (List (Except Fault (MoveAnswer α))) := do
  Move.runAll s.get moves (← s.reversed)

end Sequence

end SequenceKit
