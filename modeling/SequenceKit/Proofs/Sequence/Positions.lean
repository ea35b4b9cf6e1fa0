import SequenceKit.Proofs.Sequence.Backward
import SequenceKit.Proofs.Sequence.Defaults

/-!
# Answers by position

The position lookup, the range search, the checked read, the reads of both ends and backward
walks never ask for a cursor.  What they answer depends on the size and on the reads below it,
whatever a cursor over the same sequence would show.

* `Access.Positions` — size and reads that show a list; of the cursor nothing is said.
* `outcome_firstMatch` — the search by position finds the first hit of its part of the list.
* `Access.Positions.outcome_position`, `outcome_indexBetween`, … — what the default bodies answer.
* `Access.Positions.outcome_walk` — and the answers of a backward walk.
-/

namespace SequenceKit

variable {α : Type}

/-- Size and reads by position show the same list.  What a read does at a position that is not
below the size is left open, and so is the cursor. -/
structure Access.Positions (s : Access α) (contents : List α) : Prop where
  size : s.size.outcome = .ok contents.length
  get : ∀ {i : Nat} {a : α}, contents[i]? = some a → (s.get i).outcome = .ok a

/-- The contents of a well behaved sequence stand at their positions. -/
lemma Access.Holds.positions {s : Access α} {contents : List α} (h : s.Holds contents) :
    s.Positions contents :=
  ⟨h.size, h.get⟩

/-- Over reads that show a list, the search finds the first hit of its part of the list. -/
lemma outcome_firstMatch [BEq α] {get : Nat → Traced α} {as : List α}
    (reads : ∀ {i : Nat} {a : α}, as[i]? = some a → (get i).outcome = .ok a) (value : α)
    (count : Nat) : ∀ start : Nat, start + count ≤ as.length →
    (firstMatch get value start count).outcome =
      .ok ((((as.drop start).take count).findIdx? (· == value)).map (start + ·)) := by
  induction count with
  | zero => intro start _; rfl
  | succ count ih =>
      intro start inside
      have lt : start < as.length := by omega
      rw [firstMatch, Traced.outcome_bind_of_ok (reads (List.getElem?_eq_getElem lt)),
        List.drop_eq_getElem_cons lt, List.take_succ_cons, List.findIdx?_cons]
      by_cases hit : (as[start] == value) = true
      · rw [if_pos hit, if_pos hit]
        rfl
      · rw [if_neg hit, if_neg hit, ih (start + 1) (by omega), Option.map_map]
        congr 2
        funext i
        show start + 1 + i = start + (i + 1)
        omega

/-- The whole range stands for the contents. -/
lemma Reversed.left_ofSize (as : List α) : (ofSize as.length).left as = as.reverse := by
  rw [left, ofSize, List.drop_zero, List.take_length]

namespace Access.Positions

variable {s : Access α} {as : List α} (h : s.Positions as)

include h

/-- Every read below the size succeeds. -/
lemma read {i : Nat} (lt : i < as.length) : (s.get i).outcome = .ok as[i] :=
  h.get (List.getElem?_eq_getElem lt)

/-- By the size, there is nothing exactly if the list is empty. -/
lemma outcome_sizeIsZero : s.sizeIsZero.outcome = .ok as.isEmpty := by
  rw [sizeIsZero, Traced.outcome_bind_of_ok h.size, Traced.outcome_pure]
  cases as <;> rfl

/-! ## Single reads -/

lemma outcome_checkedAt (place : Nat) :
    (s.checkedAt place).outcome = .ok (match as[place]? with
      | some a => .ok a
      | none => .error (.indexTooHigh place as.length)) := by
  rw [checkedAt, Traced.outcome_bind_of_ok h.size]
  by_cases lt : place < as.length
  · rw [if_neg (by omega), Traced.outcome_bind_of_ok (h.read lt), List.getElem?_eq_getElem lt]
    rfl
  · rw [if_pos (by omega), List.getElem?_eq_none (by omega)]
    rfl

/-- Where there is no element there is no read; otherwise the first is read. -/
lemma outcome_first_of_truthful (truthful : s.isEmpty.outcome = .ok as.isEmpty) :
    s.first.outcome = .ok as.head? := by
  rw [first, Traced.outcome_bind_of_ok truthful]
  cases as with
  | nil => rfl
  | cons a rest =>
      rw [if_neg (by simp), Traced.outcome_bind_of_ok (h.get rfl)]
      rfl

lemma outcome_first (default : s.isEmpty = s.sizeIsZero) : s.first.outcome = .ok as.head? :=
  h.outcome_first_of_truthful ((congrArg _ default).trans h.outcome_sizeIsZero)

lemma outcome_last : s.last.outcome = .ok as.getLast? := by
  rw [last_eq, Traced.outcome_bind_of_ok h.size]
  by_cases lt : 0 < as.length
  · rw [if_pos lt, Traced.outcome_bind_of_ok (h.read (Nat.sub_one_lt_of_lt lt)),
      List.getLast?_eq_getElem?, List.getElem?_eq_getElem (Nat.sub_one_lt_of_lt lt)]
    rfl
  · rw [if_neg lt, List.eq_nil_of_length_eq_zero (by omega : as.length = 0)]
    rfl

/-! ## Searches -/

section Searches

variable [BEq α]

/-- The position lookup tells the first hit. -/
lemma outcome_position (value : α) :
    (s.position value).outcome = .ok (as.findIdx? (· == value)) := by
  rw [position, Traced.outcome_bind_of_ok h.size, outcome_firstMatch h.get value _ 0 (by omega),
    List.drop_zero, List.take_length]
  simp

/-- The index lookup makes of it what a signed number can express. -/
lemma outcome_index (value : α) :
    (s.sequence.index value).outcome = (signedIndex (as.findIdx? (· == value))).outcome :=
  Traced.outcome_bind_of_ok (h.outcome_position value) signedIndex

/-- The range search tells the first hit of a range that lies within the list. -/
lemma outcome_indexBetween (value : α) (start stop : Nat) :
    (s.indexBetween value start stop).outcome = .ok
      (if start ≤ stop ∧ stop ≤ as.length then
        match ((as.take stop).drop start).findIdx? (· == value) with
        | some i => .ok (start + i)
        | none => .error .valueNotFound
      else .error (.invalidRange start stop as.length)) := by
  rw [indexBetween, Traced.outcome_bind_of_ok h.size]
  by_cases inside : start ≤ stop ∧ stop ≤ as.length
  · have admitted : ¬ (decide (start > stop) || decide (stop > as.length)) = true := by
      simp only [Bool.or_eq_true, decide_eq_true_eq]
      omega
    rw [if_neg admitted, if_pos inside]
    show (firstMatch s.get value start (stop - start) >>= _).outcome = _
    rw [Traced.outcome_bind_of_ok (outcome_firstMatch h.get value _ start (by omega)),
      List.take_drop, Nat.add_sub_cancel' inside.1]
    cases ((as.take stop).drop start).findIdx? (· == value) <;> rfl
  · have refused : (decide (start > stop) || decide (stop > as.length)) = true := by
      simp only [Bool.or_eq_true, decide_eq_true_eq]
      omega
    rw [if_pos refused, if_neg inside]
    rfl

end Searches

end Access.Positions

/-! ## Backward walks -/

namespace Access.Positions

variable {s : Sequence α} {as : List α} (h : s.Positions as)

include h

/-- A backward walk starts with all positions. -/
lemma outcome_reversed : s.reversed.outcome = .ok (.ofSize as.length) :=
  Traced.outcome_bind_of_ok h.size _

lemma outcome_backward : s.backward.outcome = .ok as.reverse := by
  have all := (Walk.refines_drain h.get .back (.ofSize as.length) le_rfl).1
  rw [Reversed.left_ofSize] at all
  rw [Sequence.backward, Traced.outcome_bind_of_ok h.outcome_reversed]
  exact all

lemma outcome_walk (moves : List Move) :
    (s.walk moves).outcome = .ok ((Move.answers moves as.reverse).map .ok) := by
  rw [Sequence.walk, Traced.outcome_bind_of_ok h.outcome_reversed, ← Reversed.left_ofSize]
  exact (Move.runAll_refines h.get moves _ le_rfl).1

end Access.Positions

end SequenceKit
