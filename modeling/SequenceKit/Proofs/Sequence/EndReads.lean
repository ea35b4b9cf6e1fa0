import SequenceKit.Instrumented.Tally
import SequenceKit.Proofs.Sequence.Positions

/-!
# The ends behind layers

No layer forwards the reads of the two ends.  Behind a layer they are the default bodies, over the
size and the reads by position that the layer does forward, and a sequence with an opinion of its
own about its ends is not asked for it.

**One layer and several.**  `first_wrap` and `last_wrap` say what one layer makes of any sequence.
Both answers are functions of the size and the reads alone, and no layer changes these, so under
further layers nothing happens any more: `first_stack`, `last_stack`.

**Where nobody notices.**  A sequence whose size and reads show a list has true ends, and views
answer with them.  What a sequence says by itself is then the same exactly if it is true.

* **`View.end_reads_by_default`** — the ends of the outermost of any number of views.
* `View.end_reads_disagree` — a sequence of two elements that denies having ends.
-/

namespace SequenceKit

variable {α : Type}

/-- The first element as the size and the reads tell it: what the default body answers where
emptiness has the default body too. -/
def Access.firstBySize (s : Access α) : Traced (Option α) := do
  if ← s.sizeIsZero then return none
  return some (← s.get 0)

lemma Layer.ends_notMem_methods (layer : Layer) :
    .first ∉ layer.methods ∧ .last ∉ layer.methods := by
  cases layer <;> decide

namespace Sequence

variable [BEq α]

lemma first_wrap (layer : Layer) (s : Sequence α) : (s.wrap layer).first = s.firstBySize := by
  have default : (s.wrap layer).first = (s.toAccess.forwarding layer.methods).first :=
    if_neg layer.ends_notMem_methods.1
  rw [default, Access.forwarding_methods]
  rfl

lemma last_wrap (layer : Layer) (s : Sequence α) : (s.wrap layer).last = s.toAccess.last := by
  have default : (s.wrap layer).last = (s.toAccess.forwarding layer.methods).last :=
    if_neg layer.ends_notMem_methods.2
  rw [default, Access.forwarding_methods]
  rfl

/-- Size and reads come through any number of layers, and with them the default ends. -/
lemma ends_stack (layers : List Layer) (s : Sequence α) :
    (s.stack layers).firstBySize = s.firstBySize ∧
      (s.stack layers).toAccess.last = s.toAccess.last := by
  have size : (s.stack layers).size = s.size := ask_stack layers s .size
  have get (place : Nat) : (s.stack layers).get place = s.get place :=
    ask_stack layers s (.get place)
  constructor
  · rw [Access.firstBySize, Access.firstBySize, sizeIsZero_stack, get]
  · simp only [Access.last, size, get]

lemma first_stack {layers : List Layer} (behind : layers ≠ []) (s : Sequence α) :
    (s.stack layers).first = s.firstBySize := by
  cases layers with
  | nil => exact absurd rfl behind
  | cons layer inner =>
      have outer : (s.stack (layer :: inner)).first = (s.stack inner).firstBySize :=
        first_wrap layer (s.stack inner)
      rw [outer, (ends_stack inner s).1]

lemma last_stack {layers : List Layer} (behind : layers ≠ []) (s : Sequence α) :
    (s.stack layers).last = s.toAccess.last := by
  cases layers with
  | nil => exact absurd rfl behind
  | cons layer inner =>
      have outer : (s.stack (layer :: inner)).last = (s.stack inner).toAccess.last :=
        last_wrap layer (s.stack inner)
      rw [outer, (ends_stack inner s).2]

end Sequence

namespace Access.Positions

variable {s : Access α} {contents : List α}

/-- Told by the size, the first element is the head of what size and reads show. -/
lemma outcome_firstBySize (h : s.Positions contents) :
    s.firstBySize.outcome = .ok contents.head? := by
  let plain : Access α := { size := s.size, iter := s.iter, get := s.get }
  have shown : plain.Positions contents := ⟨h.size, h.get⟩
  exact shown.outcome_first rfl

end Access.Positions

namespace View

variable [BEq α]

/-- **Views do not ask a sequence for its ends.**  Let `v` be the outermost of `further + 1` views
of `s`, whatever bodies `s` has for the reads of its ends and for emptiness.

* The ends of `v` are the default bodies over the size and the reads of `s`: value, fault and
  marks are theirs.
* So `v` ends like `s` itself exactly where the bodies of `s` end like the default ones.
* If size and reads of `s` show a list, `v` answers with the ends of that list, and `s` agrees
  exactly if it tells the same.
* If `s` has nothing but default bodies, `v` and `s` do the same. -/
theorem end_reads_by_default {name : TypeName} {s : Sequence α} {further : Nat} {v : View α}
    (made : (nested name s further).outcome = .ok v) :
    (v.sequence.first = s.firstBySize ∧ v.sequence.last = s.toAccess.last) ∧
    ((v.sequence.first.outcome = s.first.outcome ↔
        s.first.outcome = s.firstBySize.outcome) ∧
      (v.sequence.last.outcome = s.last.outcome ↔
        s.last.outcome = s.toAccess.last.outcome)) ∧
    (∀ contents : List α, s.Positions contents →
      v.sequence.first.outcome = .ok contents.head? ∧
      v.sequence.last.outcome = .ok contents.getLast? ∧
      (v.sequence.first.outcome = s.first.outcome ↔ s.first.outcome = .ok contents.head?) ∧
      (v.sequence.last.outcome = s.last.outcome ↔ s.last.outcome = .ok contents.getLast?)) ∧
    (∀ a : Access α, a.isEmpty = a.sizeIsZero → s = a.sequence →
      v.sequence.first = s.first ∧ v.sequence.last = s.last) := by
  have layers : v.sequence = s.stack (.view :: List.replicate further .view) := by
    rw [sequence, target_of_nested made]
    rfl
  have first : v.sequence.first = s.firstBySize := by
    rw [layers, Sequence.first_stack (List.cons_ne_nil _ _)]
  have last : v.sequence.last = s.toAccess.last := by
    rw [layers, Sequence.last_stack (List.cons_ne_nil _ _)]
  refine ⟨⟨first, last⟩, ⟨?_, ?_⟩, ?_, ?_⟩
  · rw [first, eq_comm]
  · rw [last, eq_comm]
  · intro contents shown
    rw [first, last, shown.outcome_firstBySize, shown.outcome_last]
    exact ⟨rfl, rfl, eq_comm, eq_comm⟩
  · rintro a default rfl
    rw [layers, Access.stack_sequence default]
    exact ⟨rfl, rfl⟩

/-- A recording sequence of two elements that answers neither read of an end. -/
def endless : Sequence Int64 :=
  (Tally.mk false #[7, 8]).sequence

/-- Three views of it show the ends that it denies. -/
theorem end_reads_by_default_thrice :
    ∃ v, (nested (.path ["Tally"] []) endless 2).outcome = .ok v ∧
      endless.Positions [7, 8] ∧
      v.sequence.first.outcome = .ok (some 7) ∧ v.sequence.last.outcome = .ok (some 8) := by
  have told : endless.size.outcome = .ok 2 := rfl
  obtain ⟨v, made⟩ := exists_nested told (.path ["Tally"] []) 2
  have shown : endless.Positions [7, 8] := by
    refine ⟨told, fun {i a} stored => ?_⟩
    match i, stored with
    | 0, rfl => rfl
    | 1, rfl => rfl
  have ends := (end_reads_by_default made).2.2.1 [7, 8] shown
  exact ⟨v, made, shown, ends.1, ends.2.1⟩

/-- One view of it: asked itself the sequence has no ends, through the view it has both. -/
theorem end_reads_disagree :
    ∃ v, (nested (.path ["Tally"] []) endless 0).outcome = .ok v ∧
      (endless.first.outcome = .ok none ∧ v.sequence.first.outcome = .ok (some 7)) ∧
      (endless.last.outcome = .ok none ∧ v.sequence.last.outcome = .ok (some 8)) :=
  ⟨_, rfl, ⟨rfl, rfl⟩, ⟨rfl, rfl⟩⟩

end View

end SequenceKit
