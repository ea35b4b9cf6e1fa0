import SequenceKit.Proofs.Sequence.Lookup
import SequenceKit.Proofs.Sequence.Positions
import SequenceKit.Session.Read

/-!
# What reading steps mean

A reading step goes its own way to its answer: over the cursor, by position from the front, by
position from the back, or by the size alone.  On a well behaved sequence with default bodies all
these ways lead to one meaning, which knows nothing but the contents.

* `Query.onList` — the meaning of a reading step, on a list.
* `Query.InRange` — the steps that keep to the contents: all of them, but for reads by position
  past the end, where an implementor may do what it likes.
* `Query.reply_run` — a reading step replies what it means.
* `Sequence.reply_read` — views in between make no difference to the reply.
-/

namespace SequenceKit

variable {α : Type}

/-! ## Meaning -/

/-- The reply of a reading step on a sequence of given contents. -/
def Query.onList [BEq α] : Query α → List α → Reply α
  | size, as => .answer (.number as.length)
  | isEmpty, as => .answer (.truth as.isEmpty)
  | contains value, as | hasMember value, as => .answer (.truth (as.any (· == value)))
  | position value, as => .answer (.position (as.findIdx? (· == value)))
  | index value, as =>
      match as.findIdx? (· == value) with
      | none => .answer (.integer (-1))
      | some i => if i ≤ maxIndex then .answer (.integer i) else .fault .positionOverflow
  | count value, as =>
      let number := as.countP (· == value)
      if number ≤ Word.largest then .answer (.number number) else .fault .addOverflow
  | indexBetween value start stop, as =>
      if start ≤ stop ∧ stop ≤ as.length then
        match ((as.take stop).drop start).findIdx? (· == value) with
        | some i => .answer (.number (start + i))
        | none => .error .valueNotFound
      else .error (.invalidRange start stop as.length)
  | checkedAt place, as =>
      match as[place]? with
      | some a => .answer (.element (some a))
      | none => .error (.indexTooHigh place as.length)
  | get place, as =>
      match as[place]? with
      | some a => .answer (.element (some a))
      | none => .fault (.indexOutOfBounds place as.length)
  | first, as => .answer (.element as.head?)
  | last, as => .answer (.element as.getLast?)
  | iter, as => .answer (.elements as)
  | take n, as => .answer (.elements (as.take n))
  | backward, as => .answer (.elements as.reverse)
  | walk moves, as => .answer (.moves ((Move.answers moves as.reverse).map .ok))

/-- A step that reads no single position, or one below the size. -/
def Query.InRange (size : Nat) : Query α → Prop
  | get place => place < size
  | _ => True

/-! ## Reports -/

namespace Report

variable {β : Type}

lemma reply_ofTraced {x : Traced β} {b : β} (h : x.outcome = .ok b) (answer : β → Answer α) :
    (ofTraced answer x).reply = .answer (answer b) := by
  have value : (Except.ok (ε := LookupError) <$> x).outcome = .ok (.ok b) :=
    Traced.outcome_map_of_ok h _
  rw [ofTraced, ofFallible]
  simp only [value]

lemma reply_ofTraced_fault {x : Traced β} {f : Fault} (h : x.outcome = .error f)
    (answer : β → Answer α) : (ofTraced answer x).reply = .fault f := by
  have stopped : (Except.ok (ε := LookupError) <$> x).outcome = .error f := by
    rw [Traced.outcome_map, h]
    rfl
  rw [ofTraced, ofFallible]
  simp only [stopped]

lemma reply_ofFallible {x : Traced (Except LookupError β)} {b : β}
    (h : x.outcome = .ok (.ok b)) (answer : β → Answer α) :
    (ofFallible answer x).reply = .answer (answer b) := by
  rw [ofFallible]
  simp only [h]

lemma reply_ofFallible_error {x : Traced (Except LookupError β)} {e : LookupError}
    (h : x.outcome = .ok (.error e)) (answer : β → Answer α) :
    (ofFallible answer x).reply = .error e := by
  rw [ofFallible]
  simp only [h]

end Report

/-! ## Replies -/

variable [BEq α]

/-- On a well behaved sequence of default bodies a reading step replies what it means. -/
lemma Query.reply_run {s : Access α} {as : List α} (h : s.Holds as)
    (default : s.isEmpty = s.sizeIsZero) {q : Query α} (inRange : q.InRange as.length) :
    (q.run s.sequence).reply = q.onList as := by
  cases q with
  | size => exact Report.reply_ofTraced h.size _
  | isEmpty =>
      exact Report.reply_ofTraced ((congrArg _ default).trans h.positions.outcome_sizeIsZero) _
  | contains value => exact Report.reply_ofTraced (h.outcome_contains value) _
  | hasMember value => exact Report.reply_ofTraced (h.outcome_contains value) _
  | position value => exact Report.reply_ofTraced (h.positions.outcome_position value) _
  | index value =>
      have followed := h.positions.outcome_index value
      rw [Query.onList]
      cases place : as.findIdx? (· == value) with
      | none =>
          rw [place] at followed
          exact Report.reply_ofTraced followed _
      | some i =>
          rw [place, signedIndex] at followed
          by_cases fits : i ≤ maxIndex
          · rw [if_pos fits] at followed
            exact (Report.reply_ofTraced followed _).trans (if_pos fits).symm
          · rw [if_neg fits] at followed
            exact (Report.reply_ofTraced_fault followed _).trans (if_neg fits).symm
  | count value =>
      have counted := h.outcome_count value
      rw [Query.onList]
      by_cases fits : as.countP (· == value) ≤ Word.largest
      · rw [Word.total_of_le fits] at counted
        exact (Report.reply_ofTraced counted _).trans (if_pos fits).symm
      · rw [Word.total_of_gt (Nat.lt_of_not_le fits)] at counted
        exact (Report.reply_ofTraced_fault counted _).trans (if_neg fits).symm
  | indexBetween value start stop =>
      have answer := h.positions.outcome_indexBetween value start stop
      rw [Query.run, Query.onList]
      by_cases inside : start ≤ stop ∧ stop ≤ as.length
      · rw [if_pos inside] at answer ⊢
        cases found : ((as.take stop).drop start).findIdx? (· == value) with
        | none =>
            rw [found] at answer
            exact Report.reply_ofFallible_error answer _
        | some i =>
            rw [found] at answer
            exact Report.reply_ofFallible answer _
      · rw [if_neg inside] at answer ⊢
        exact Report.reply_ofFallible_error answer _
  | checkedAt place =>
      have answer := h.positions.outcome_checkedAt place
      rw [Query.run, Query.onList]
      cases stored : as[place]? with
      | none =>
          rw [stored] at answer
          exact Report.reply_ofFallible_error answer _
      | some a =>
          rw [stored] at answer
          exact Report.reply_ofFallible answer _
  | get place =>
      rw [Query.run, Query.onList, List.getElem?_eq_getElem inRange]
      exact Report.reply_ofTraced (h.reads inRange) _
  | first => exact Report.reply_ofTraced (h.positions.outcome_first default) _
  | last => exact Report.reply_ofTraced h.positions.outcome_last _
  | iter =>
      obtain ⟨c, made, yields⟩ := h.iter
      have collected := Traced.outcome_bind_of_ok made Cursor.collect
      exact Report.reply_ofTraced (collected.trans yields.outcome_collect) _
  | take n =>
      obtain ⟨c, made, yields⟩ := h.iter
      have taken := Traced.outcome_bind_of_ok made (Cursor.take n)
      exact Report.reply_ofTraced (taken.trans (yields.outcome_take n)) _
  | backward => exact Report.reply_ofTraced h.positions.outcome_backward _
  | walk moves => exact Report.reply_ofTraced (h.positions.outcome_walk moves) _

/-- Through any number of views a sequence of default bodies replies as it does by itself. -/
lemma Sequence.reply_read {s : Access α} {n : Nat} (size : s.size.outcome = .ok n)
    (default : s.isEmpty = s.sizeIsZero) (name : TypeName) (views : Nat) (q : Query α) :
    (s.sequence.read name views q).reply = (q.run s.sequence).reply := by
  cases views with
  | zero => rfl
  | succ further =>
      obtain ⟨v, made⟩ :=
        View.exists_nested (show s.sequence.size.outcome = _ from size) name further
      have same : v.sequence = s.sequence := by
        rw [View.sequence, View.target_of_nested made, Access.stack_sequence default,
          Access.wrap_sequence default]
      rw [read, throughViews]
      simp only [made, same]
      rfl

end SequenceKit
