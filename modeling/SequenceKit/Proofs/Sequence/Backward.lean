import Mathlib.Data.List.DropRight
import SequenceKit.Proofs.Sequence.Contents
import SequenceKit.Sequence.Reversed

/-!
# Backward walks refine a deque

A backward walk remembers two positions and reads the elements between them on demand.  Seen from
outside it is a deque that starts with the contents in reverse and is emptied from both ends.

**The deque.**  `Move.onDeque` says what each move does to an ideal deque, a list whose head is
the front.  The front of the deque is the back of the sequence, where a backward walk starts.

**Simulation.**  `Reversed.left` is what a remaining range stands for, and `Walk.Refines` relates
a walk to a computation on lists by it.  The relation is kept by `pure` and `bind`, so one lemma
about a single read, `refines_pull`, carries all the composed moves.

**Accounts.**  `Move.takenFrom` lists what the moves at one end have yielded or skipped.  Each
element is taken once, from one end: `takenFrom_append`.

* **`walk_refines_deque`** — the answers to any list of moves, and what follows from them.
-/

namespace SequenceKit

variable {α β γ : Type}

/-! ## The deque -/

/-- The elements in the order in which they come out at one end.  A list is a deque with its
front, where the elements from the back of a sequence come out, at its head. -/
def Side.facing : Side → List α → List α
  | .back, d => d
  | .front, d => d.reverse

@[simp] lemma Side.facing_facing (side : Side) (d : List α) :
    side.facing (side.facing d) = d := by
  cases side with
  | back => rfl
  | front => exact List.reverse_reverse d

@[simp] lemma Side.facing_nil (side : Side) : side.facing ([] : List α) = [] := by
  cases side <;> rfl

@[simp] lemma Side.length_facing (side : Side) (d : List α) :
    (side.facing d).length = d.length := by
  cases side with
  | back => rfl
  | front => exact List.length_reverse

/-- Takes one element from one end of a deque, if there is one. -/
def Side.pop (side : Side) (d : List α) : Option α × List α :=
  ((side.facing d).head?, side.facing (side.facing d).tail)

/-- Puts one element at one end of a deque. -/
def Side.push (side : Side) (a : α) (d : List α) : List α :=
  side.facing (a :: side.facing d)

@[simp] lemma Side.facing_push (side : Side) (a : α) (d : List α) :
    side.facing (side.push a d) = a :: side.facing d :=
  side.facing_facing _

@[simp] lemma Side.pop_nil (side : Side) : side.pop ([] : List α) = (none, []) := by
  simp [Side.pop]

@[simp] lemma Side.pop_push (side : Side) (a : α) (d : List α) :
    side.pop (side.push a d) = (some a, d) := by
  simp [Side.pop]

/-- Either there is nothing at an end, or there is an element that can be put back. -/
lemma Side.eq_nil_or_push (side : Side) (d : List α) : d = [] ∨ ∃ a rest, d = side.push a rest := by
  cases facing : side.facing d with
  | nil => exact .inl (by rw [← side.facing_facing d, facing, facing_nil])
  | cons a rest =>
      refine .inr ⟨a, side.facing rest, ?_⟩
      rw [push, facing_facing, ← facing, facing_facing]

/-- What a deque answers to a move, and what it holds afterwards. -/
def Move.onDeque : Move → List α → MoveAnswer α × List α
  | next, d => (.element d.head?, d.tail)
  | nextBack, d => (.element d.getLast?, d.dropLast)
  | nth k, d => (.element (d.drop k).head?, (d.drop k).tail)
  | nthBack k, d => (.element (d.rdrop k).getLast?, (d.rdrop k).dropLast)
  | len, d => (.number d.length, d)
  | sizeHint, d => (.bounds d.length d.length, d)
  | rest, d => (.elements d, [])
  | restBack, d => (.elements d.reverse, [])
  | count, d => (.number d.length, [])
  | last, d => (.element d.getLast?, [])

lemma Move.onDeque_nextBack (d : List α) :
    nextBack.onDeque d = (.element (Side.front.pop d).1, (Side.front.pop d).2) := by
  rw [onDeque, Side.pop, Side.facing, Side.facing, List.head?_reverse, List.tail_reverse,
    List.reverse_reverse]

lemma Move.onDeque_nthBack (k : Nat) (d : List α) :
    (nthBack k).onDeque d =
      (.element (Side.front.pop (Side.front.facing ((Side.front.facing d).drop k))).1,
        (Side.front.pop (Side.front.facing ((Side.front.facing d).drop k))).2) := by
  rw [onDeque, List.rdrop_eq_reverse_drop_reverse, Side.pop, Side.facing_facing, Side.facing,
    Side.facing, List.getLast?_reverse, List.dropLast_reverse]

/-- The elements that an answer shows. -/
def MoveAnswer.shown : MoveAnswer α → List α
  | element a => a.toList
  | elements as => as
  | number _ | bounds .. => []

/-- The answers of a deque to moves, one after the other. -/
def Move.answers : List Move → List α → List (MoveAnswer α)
  | [], _ => []
  | m :: later, d => (m.onDeque d).1 :: answers later (m.onDeque d).2

/-- What a deque holds after moves. -/
def Move.leftAfter : List Move → List α → List α
  | [], d => d
  | m :: later, d => leftAfter later (m.onDeque d).2

/-! ## Simulation -/

/-- What is left of the contents in a remaining range, the last element first. -/
def Reversed.left (contents : List α) (r : Reversed) : List α :=
  ((contents.take r.back).drop r.front).reverse

/-- As many elements are left as there are positions in the range. -/
lemma Reversed.length_left {contents : List α} {r : Reversed} (h : r.back ≤ contents.length) :
    (r.left contents).length = r.len := by
  rw [left, List.length_reverse, List.length_drop, List.length_take_of_le h, len]

/-- An empty range leaves nothing. -/
lemma Reversed.left_of_eq (contents : List α) {r : Reversed} (h : r.front = r.back) :
    r.left contents = [] := by
  rw [left, List.reverse_eq_nil_iff, List.drop_eq_nil_iff, h]
  exact List.length_take_le r.back contents

/-- At the back end of the range is the front of what is left. -/
lemma Reversed.left_back {contents : List α} (r r' : Reversed) (le : r.back ≤ contents.length)
    (lt : r.front < r.back) (front : r'.front = r.front) (back : r'.back = r.back - 1) :
    r.left contents = Side.back.push contents[r.back - 1] (r'.left contents) := by
  have split : contents.take r.back = contents.take (r.back - 1) ++ [contents[r.back - 1]] := by
    rw [List.take_append_getElem]
    congr 1
    omega
  have inside : r.front ≤ (contents.take (r.back - 1)).length := by
    rw [List.length_take_of_le (by omega)]
    omega
  rw [left, left, split, List.drop_append_of_le_length inside, List.reverse_concat, front, back]
  rfl

/-- At the front end of the range is the back of what is left. -/
lemma Reversed.left_front {contents : List α} (r r' : Reversed) (le : r.back ≤ contents.length)
    (lt : r.front < r.back) (front : r'.front = r.front + 1) (back : r'.back = r.back) :
    r.left contents = Side.front.push contents[r.front] (r'.left contents) := by
  have inside : r.front < (contents.take r.back).length := by
    rw [List.length_take_of_le le]
    exact lt
  rw [left, left, List.drop_eq_getElem_cons inside, List.getElem_take, front, back, Side.push,
    Side.facing, Side.facing, List.reverse_reverse]

namespace Walk

/-- On every range within the contents, the walk ends with the value that `f` computes from what
is left, and leaves what `f` leaves. -/
def Refines (contents : List α) (w : Walk β) (f : List α → β × List α) : Prop :=
  ∀ r : Reversed, r.back ≤ contents.length →
    (w r).1.outcome = .ok (f (r.left contents)).1 ∧
      (w r).2.left contents = (f (r.left contents)).2 ∧
      (w r).2.back ≤ contents.length

lemma refines_pure (contents : List α) (b : β) :
    (pure b : Walk β).Refines contents fun d => (b, d) :=
  fun _ le => ⟨rfl, rfl, le⟩

/-- One walk after another refines one computation after another. -/
lemma Refines.bind {contents : List α} {w : Walk β} {f : List α → β × List α}
    {g : β → Walk γ} {h : β → List α → γ × List α} (first : w.Refines contents f)
    (later : ∀ b, (g b).Refines contents (h b)) :
    (w >>= g).Refines contents fun d => h (f d).1 (f d).2 := by
  intro r le
  obtain ⟨value, left, le'⟩ := first r le
  obtain ⟨value', left', le''⟩ := later (f (r.left contents)).1 (w r).2 le'
  have run : (w >>= g) r = ((g (f (r.left contents)).1 (w r).2).1.after (w r).1.trace,
      (g (f (r.left contents)).1 (w r).2).2) := by
    show Walk.bind w g r = _
    rw [Walk.bind, value]
  rw [left] at value' left'
  rw [run]
  exact ⟨value', left', le''⟩

lemma Refines.congr {contents : List α} {w : Walk β} {f f' : List α → β × List α}
    (h : w.Refines contents f) (same : ∀ d, f d = f' d) : w.Refines contents f' :=
  funext same ▸ h

/-- A walk whose value is worked on further. -/
lemma Refines.andThen {contents : List α} {w : Walk β} {f : List α → β × List α}
    (first : w.Refines contents f) (g : β → γ) :
    (do return g (← w) : Walk γ).Refines contents fun d => (g (f d).1, (f d).2) :=
  first.bind fun b => refines_pure contents (g b)

/-! ### One read, and repeated reads -/

section Reads

variable {contents : List α} {get : Nat → Traced α}
  (reads : ∀ {i : Nat} {a : α}, contents[i]? = some a → (get i).outcome = .ok a)

include reads

/-- Taking the next position from one end of the range takes one element from that end of what is
left. -/
lemma refines_pull (side : Side) : (pull get side).Refines contents side.pop := by
  intro r le
  by_cases used : r.front = r.back
  · rw [pull_of_used get side used, r.left_of_eq contents used, Side.pop_nil]
    exact ⟨rfl, rfl, le⟩
  · have lt : r.front < r.back := Nat.lt_of_le_of_ne r.front_le_back used
    cases side with
    | back =>
        let r' : Reversed := ⟨r.front, r.back - 1, Nat.le_sub_one_of_lt lt⟩
        have read := reads (List.getElem?_eq_getElem (l := contents) (i := r.back - 1) (by omega))
        rw [pull_back get lt, r.left_back r' le lt rfl rfl, Side.pop_push]
        exact ⟨Traced.outcome_map_of_ok read some, rfl, (Nat.sub_le r.back 1).trans le⟩
    | front =>
        let r' : Reversed := ⟨r.front + 1, r.back, lt⟩
        have read := reads (List.getElem?_eq_getElem (l := contents) (i := r.front) (by omega))
        rw [pull_front get lt, r.left_front r' le lt rfl rfl, Side.pop_push]
        exact ⟨Traced.outcome_map_of_ok read some, rfl, le⟩

/-- A walk that takes one element and goes on from there.  It is enough that what comes later does
what is to be done once the element is put back. -/
lemma refines_pull_then (side : Side) {b : β} {g : α → Walk β} {f : List α → β × List α}
    (none_left : f [] = (b, []))
    (later : ∀ a, (g a).Refines contents fun d => f (side.push a d)) :
    (pull get side >>= fun
      | none => pure b
      | some a => g a).Refines contents f := by
  let after : Option α → List α → β × List α
    | none, d => (b, d)
    | some a, d => f (side.push a d)
  have whole := (refines_pull reads side).bind (g := fun
      | none => pure b
      | some a => g a) (h := after) (by
    intro o
    cases o with
    | none => exact refines_pure contents b
    | some a => exact later a)
  refine whole.congr fun d => ?_
  rcases side.eq_nil_or_push d with rfl | ⟨a, rest, rfl⟩
  · rw [Side.pop_nil, none_left]
  · rw [Side.pop_push]

/-- Skipping is taking and forgetting, as long as there is something to take. -/
lemma refines_nth (side : Side) (k : Nat) :
    (nth get side k).Refines contents fun d => side.pop (side.facing ((side.facing d).drop k)) := by
  induction k with
  | zero =>
      refine (refines_pull reads side).congr fun d => ?_
      rw [List.drop_zero, Side.facing_facing]
  | succ k ih =>
      refine refines_pull_then reads side (by simp) fun a => ih.congr fun d => ?_
      rw [Side.facing_push, List.drop_succ_cons]

/-- Taking elements one by one, as many as are allowed. -/
lemma refines_drainUpTo (side : Side) (fuel : Nat) :
    (drainUpTo get side fuel).Refines contents fun d =>
      ((side.facing d).take fuel, side.facing ((side.facing d).drop fuel)) := by
  induction fuel with
  | zero =>
      refine (refines_pure contents []).congr fun d => ?_
      rw [List.take_zero, List.drop_zero, Side.facing_facing]
  | succ fuel ih =>
      refine refines_pull_then reads side (by simp) fun a =>
        (ih.andThen (a :: ·)).congr fun d => ?_
      rw [Side.facing_push, List.take_succ_cons, List.drop_succ_cons]

/-- The positions that are left are enough to take all that is left. -/
lemma refines_drain (side : Side) :
    (drain get side).Refines contents fun d => (side.facing d, []) := by
  intro r le
  obtain ⟨value, left, le'⟩ := refines_drainUpTo reads side r.len r le
  have all : (side.facing (r.left contents)).length ≤ r.len := by
    rw [Side.length_facing, Reversed.length_left le]
  dsimp only at value left
  rw [List.take_of_length_le all] at value
  rw [List.drop_of_length_le all, Side.facing_nil] at left
  exact ⟨value, left, le'⟩

end Reads

end Walk

/-! ### Moves and runs -/

namespace Move

/-- The remaining range after moves. -/
def rangeAfter (get : Nat → Traced α) : List Move → Reversed → Reversed
  | [], r => r
  | m :: later, r => rangeAfter get later (m.run get r).2

section Reads

variable {contents : List α} {get : Nat → Traced α}
  (reads : ∀ {i : Nat} {a : α}, contents[i]? = some a → (get i).outcome = .ok a)

include reads

/-- Every move does to the remaining range what it does to the deque. -/
lemma refines_run (m : Move) : (m.run get).Refines contents m.onDeque := by
  cases m with
  | next => exact (Walk.refines_pull reads .back).andThen MoveAnswer.element
  | nextBack =>
      refine ((Walk.refines_pull reads .front).andThen MoveAnswer.element).congr fun d => ?_
      rw [onDeque_nextBack]
  | nth k => exact (Walk.refines_nth reads .back k).andThen MoveAnswer.element
  | nthBack k =>
      refine ((Walk.refines_nth reads .front k).andThen MoveAnswer.element).congr fun d => ?_
      rw [onDeque_nthBack]
  | len =>
      intro r le
      rw [run_len, onDeque, Reversed.length_left le]
      exact ⟨rfl, rfl, le⟩
  | sizeHint =>
      intro r le
      rw [run_sizeHint, onDeque, Reversed.length_left le]
      exact ⟨rfl, rfl, le⟩
  | rest => exact (Walk.refines_drain reads .back).andThen MoveAnswer.elements
  | restBack => exact (Walk.refines_drain reads .front).andThen MoveAnswer.elements
  | count => exact (Walk.refines_drain reads .back).andThen fun as => MoveAnswer.number as.length
  | last => exact (Walk.refines_drain reads .back).andThen fun as => MoveAnswer.element as.getLast?

/-- Hence so does every list of moves, and none of them meets a fault. -/
lemma runAll_refines (moves : List Move) : ∀ r : Reversed, r.back ≤ contents.length →
    (runAll get moves r).outcome = .ok ((answers moves (r.left contents)).map .ok) ∧
      (rangeAfter get moves r).left contents = leftAfter moves (r.left contents) := by
  induction moves with
  | nil => intro r _; exact ⟨rfl, rfl⟩
  | cons m later ih =>
      intro r le
      obtain ⟨value, left, le'⟩ := refines_run reads m r le
      obtain ⟨rest, end_⟩ := ih (m.run get r).2 le'
      rw [left] at rest end_
      rw [runAll, answers, List.map_cons, ← value]
      exact ⟨Traced.outcome_map_of_ok rest _, end_⟩

end Reads

/-! ## Accounts -/

/-- The end of the sequence at which a move works. -/
def side : Move → Side
  | next | nth _ | len | sizeHint | rest | count | last => .back
  | nextBack | nthBack _ | restBack => .front

/-- How many elements a move yields or skips, at most, when `n` are left. -/
def reach : Move → Nat → Nat
  | next, _ | nextBack, _ => 1
  | nth k, _ | nthBack k, _ => k + 1
  | len, _ | sizeHint, _ => 0
  | rest, n | restBack, n | count, n | last, n => n

/-- The elements that a move yields or skips, in the order in which it meets them. -/
def taken (m : Move) (d : List α) : List α :=
  (m.side.facing d).take (m.reach d.length)

/-- What moves at one end yield or skip, in order. -/
def takenFrom (end_ : Side) : List Move → List α → List α
  | [], _ => []
  | m :: later, d =>
      (if m.side = end_ then m.taken d else []) ++ takenFrom end_ later (m.onDeque d).2

/-- A move leaves what is behind the elements that it takes. -/
lemma left_onDeque (m : Move) (d : List α) :
    (m.onDeque d).2 = m.side.facing ((m.side.facing d).drop (m.reach d.length)) := by
  have all : d.reverse.drop d.length = [] := List.drop_of_length_le (List.length_reverse).le
  cases m with
  | next => exact List.drop_one.symm
  | nextBack =>
      rw [onDeque_nextBack, Side.pop, ← List.drop_one]
      rfl
  | nth k => exact List.tail_drop
  | nthBack k =>
      rw [onDeque_nthBack, Side.pop, Side.facing_facing, List.tail_drop]
      rfl
  | len => rfl
  | sizeHint => rfl
  | rest => exact (List.drop_length).symm
  | restBack =>
      show [] = (d.reverse.drop d.length).reverse
      rw [all, List.reverse_nil]
  | count => exact (List.drop_length).symm
  | last => exact (List.drop_length).symm

/-- A move at the front of a deque splits it at the front. -/
lemma taken_append {m : Move} (end_ : m.side = .back) (d : List α) :
    m.taken d ++ (m.onDeque d).2 = d := by
  rw [left_onDeque, taken, end_]
  exact List.take_append_drop (m.reach d.length) d

/-- A move at the back of a deque splits it at the back. -/
lemma append_taken {m : Move} (end_ : m.side = .front) (d : List α) :
    (m.onDeque d).2 ++ (m.taken d).reverse = d := by
  have turned := List.take_append_drop (m.reach d.length) d.reverse
  rw [left_onDeque, taken, end_, Side.facing, Side.facing, ← List.reverse_append, turned,
    List.reverse_reverse]

/-- What is taken from the front, what is left, and what is taken from the back make up the whole
deque: nothing is taken twice and nothing is lost between the ends. -/
lemma takenFrom_append (moves : List Move) : ∀ d : List α,
    takenFrom .back moves d ++ leftAfter moves d ++ (takenFrom .front moves d).reverse = d := by
  induction moves with
  | nil => intro d; simp [takenFrom, leftAfter]
  | cons m later ih =>
      intro d
      have rest := ih (m.onDeque d).2
      -- a move at one end adds to the account of that end alone
      cases end_ : m.side with
      | back =>
          have front : takenFrom .front (m :: later) d =
              takenFrom .front later (m.onDeque d).2 := by
            simp [takenFrom, end_]
          have back : takenFrom .back (m :: later) d =
              m.taken d ++ takenFrom .back later (m.onDeque d).2 := by
            simp [takenFrom, end_]
          rw [front, back, leftAfter, List.append_assoc, List.append_assoc,
            ← List.append_assoc (takenFrom .back later _), rest, taken_append end_]
      | front =>
          have front : takenFrom .front (m :: later) d =
              m.taken d ++ takenFrom .front later (m.onDeque d).2 := by
            simp [takenFrom, end_]
          have back : takenFrom .back (m :: later) d =
              takenFrom .back later (m.onDeque d).2 := by
            simp [takenFrom, end_]
          rw [front, back, leftAfter, List.reverse_append, ← List.append_assoc, rest,
            append_taken end_]

/-- The elements that the moves at one end yield, as their answers tell. -/
def yieldedFrom (end_ : Side) : List Move → List (MoveAnswer α) → List α
  | m :: later, a :: more =>
      (if m.side = end_ then a.shown else []) ++ yieldedFrom end_ later more
  | _, _ => []

/-- The element that comes next is the last of those that are taken with it. -/
lemma head?_drop_sublist (k : Nat) (d : List α) :
    (d.drop k).head?.toList.Sublist (d.take (k + 1)) := by
  rw [List.head?_drop, List.take_add_one]
  exact List.sublist_append_right _ _

/-- A move yields only what it takes, in that order. -/
lemma shown_sublist_taken (m : Move) (d : List α) :
    (m.onDeque d).1.shown.Sublist (m.taken d) := by
  cases m with
  | next => exact head?_drop_sublist 0 d
  | nextBack =>
      rw [onDeque_nextBack]
      exact head?_drop_sublist 0 d.reverse
  | nth k => exact head?_drop_sublist k d
  | nthBack k =>
      rw [onDeque_nthBack, Side.pop, Side.facing_facing]
      exact head?_drop_sublist k d.reverse
  | len => exact List.nil_sublist _
  | sizeHint => exact List.nil_sublist _
  | rest =>
      show d.Sublist (d.take d.length)
      rw [List.take_length]
  | restBack =>
      show d.reverse.Sublist (d.reverse.take d.length)
      rw [List.take_of_length_le (List.length_reverse).le]
  | count => exact List.nil_sublist _
  | last =>
      show d.getLast?.toList.Sublist (d.take d.length)
      rw [List.take_length]
      rcases List.eq_nil_or_concat d with rfl | ⟨init, a, rfl⟩
      · exact List.nil_sublist _
      · rw [List.concat_eq_append, List.getLast?_concat]
        exact List.sublist_append_right init [a]

/-- So do all moves at one end. -/
lemma yieldedFrom_sublist (end_ : Side) (moves : List Move) : ∀ d : List α,
    (yieldedFrom end_ moves (answers moves d)).Sublist (takenFrom end_ moves d) := by
  induction moves with
  | nil => intro d; exact List.nil_sublist _
  | cons m later ih =>
      intro d
      refine List.Sublist.append ?_ (ih (m.onDeque d).2)
      split
      · exact shown_sublist_taken m d
      · exact List.nil_sublist _

/-! ## Exhaustion -/

/-- The answer of a move for which nothing is left. -/
def vacant : Move → MoveAnswer α
  | next | nextBack | nth _ | nthBack _ | last => .element none
  | len | count => .number 0
  | sizeHint => .bounds 0 0
  | rest | restBack => .elements []

lemma onDeque_nil (m : Move) : m.onDeque ([] : List α) = (m.vacant, []) := by
  cases m <;> simp [onDeque, vacant, List.rdrop]

/-- An empty deque stays empty. -/
lemma answers_nil (moves : List Move) : answers moves ([] : List α) = moves.map vacant := by
  induction moves with
  | nil => rfl
  | cons m later ih => rw [answers, onDeque_nil, ih, List.map_cons]

lemma answers_append (moves later : List Move) : ∀ d : List α,
    answers (moves ++ later) d = answers moves d ++ answers later (leftAfter moves d) := by
  induction moves with
  | nil => intro d; rfl
  | cons m more ih =>
      intro d
      rw [List.cons_append, answers, answers, leftAfter, ih, List.cons_append]

end Move

/-- **A backward walk is a deque.**  Over a well behaved sequence, and through any list of moves
from either end, a walk gives the answers of a deque that holds the contents in reverse, and its
range stands for what the deque still holds.  Therefore

* what the moves at the two ends have yielded or skipped, and what is left, make up the contents,
  so that nothing is met twice and nothing is missed in between;
* what an end yields is, in order, part of what that end takes;
* once nothing is left, every later move says so. -/
theorem walk_refines_deque {s : Sequence α} {contents : List α} (holds : s.Holds contents)
    (moves : List Move) :
    let deque := contents.reverse
    let answers := Move.answers moves deque
    let range := Move.rangeAfter s.get moves (.ofSize contents.length)
    (s.walk moves).outcome = .ok (answers.map .ok) ∧
      range.left contents = Move.leftAfter moves deque ∧
      Move.takenFrom .back moves deque ++ range.left contents ++
        (Move.takenFrom .front moves deque).reverse = deque ∧
      (∀ side, (Move.yieldedFrom side moves answers).Sublist (Move.takenFrom side moves deque)) ∧
      (range.left contents = [] → ∀ later,
        (s.walk (moves ++ later)).outcome = .ok ((answers ++ later.map Move.vacant).map .ok)) := by
  intro deque answers range
  have whole : (Reversed.ofSize contents.length).left contents = deque := by
    rw [Reversed.left, Reversed.ofSize, List.drop_zero, List.take_length]
  have run : ∀ moves, (s.walk moves).outcome = .ok ((Move.answers moves deque).map .ok) := by
    intro moves
    have start : s.reversed.outcome = .ok (.ofSize contents.length) :=
      Traced.outcome_bind_of_ok holds.size _
    rw [Sequence.walk, Traced.outcome_bind_of_ok start, ← whole]
    exact (Move.runAll_refines holds.get moves _ le_rfl).1
  have left : range.left contents = Move.leftAfter moves deque := by
    rw [← whole]
    exact (Move.runAll_refines holds.get moves _ le_rfl).2
  refine ⟨run moves, left, ?_, fun side => Move.yieldedFrom_sublist side moves deque, ?_⟩
  · rw [left]
    exact Move.takenFrom_append moves deque
  · intro empty later
    rw [run, Move.answers_append, ← left, empty, Move.answers_nil]

/-- The two ends meet: a skip from the front end and one that runs past what is left. -/
theorem walk_refines_deque_meeting :
    let contents := [10, 20, 30, 40, 50]
    let s := (Storage.row contents.toArray).access.sequence
    s.Holds contents ∧
      (s.walk [.next, .nthBack 1, .len, .nth 2, .nextBack, .rest]).outcome =
        .ok [.ok (.element (some 50)), .ok (.element (some 20)), .ok (.number 2),
          .ok (.element none), .ok (.element none), .ok (.elements [])] := by
  intro contents s
  have holds : s.Holds contents := Storage.holds (Storage.row contents.toArray)
  exact ⟨holds, (walk_refines_deque holds _).1⟩

end SequenceKit
