import Mathlib.Data.List.TFAE
import SequenceKit.Proofs.Sequence.EndReads

/-!
# All reads show the same contents

A sequence can be read by its cursor, by position with and without a check, at its two ends, and
by a backward walk from either of its ends.  These ways have little in common: the first element
is found through emptiness, the last through the size, and a backward walk counts positions.

**One list.**  `Sequence.ShowsAlike` says that all of them show one list, with one field for each
way, also where there is nothing to be read.

**Layers.**  A layer forwards some of these reads and has default bodies for the others.  So what
has to be followed through a stack of layers is only size, cursor and reads by position, and
whether the sequence tells the truth about being empty: `stack_holds`, `isEmpty_stack`.

* **`reads_agree`** — a well behaved sequence of default lookups, behind any layers, and the views
  of it.
-/

namespace SequenceKit

variable {α : Type}

namespace Sequence

variable (s : Sequence α)

/-- All elements, by the cursor. -/
def elements : Traced (List α) := do
  (← s.iter).collect

/-- The element that the cursor yields after `place` others, if it gets that far. -/
def cursorAt (place : Nat) : Traced (Option α) := do
  return (← (← s.iter).take (place + 1))[place]?

/-- Every way of reading the sequence shows the given contents. -/
structure ShowsAlike (contents : List α) : Prop where
  size : s.size.outcome = .ok contents.length
  isEmpty : s.isEmpty.outcome = .ok contents.isEmpty
  elements : s.elements.outcome = .ok contents
  cursorAt : ∀ place, (s.cursorAt place).outcome = .ok contents[place]?
  /-- Below the size both reads by position give the element there. -/
  inside : ∀ {place : Nat} (lt : place < contents.length),
    (s.checkedAt place).outcome = .ok (.ok contents[place]) ∧
      (s.get place).outcome = .ok contents[place]
  /-- Otherwise the checked one is refused. -/
  outside : ∀ {place : Nat}, contents.length ≤ place →
    (s.checkedAt place).outcome = .ok (.error (.indexTooHigh place contents.length))
  first : s.first.outcome = .ok contents.head?
  last : s.last.outcome = .ok contents.getLast?
  /-- A backward walk meets the contents from the back, from its other end from the front. -/
  backward : s.backward.outcome = .ok contents.reverse ∧
    (s.walk [.restBack]).outcome = .ok [.ok (.elements contents)]
  /-- Its first step goes to the last element. -/
  walkFirst : (s.walk [.next]).outcome = .ok [.ok (.element contents.getLast?)]
  /-- Its last step goes to the first element, and so does its first from the other end. -/
  walkLast : (s.walk [.last]).outcome = .ok [.ok (.element contents.head?)] ∧
    (s.walk [.nextBack]).outcome = .ok [.ok (.element contents.head?)]

namespace ShowsAlike

variable {s} {contents : List α} (h : s.ShowsAlike contents)

include h

/-- The read of the first element is the checked read at the front. -/
lemma checkedAt_front : (Except.toOption <$> s.checkedAt 0).outcome = s.first.outcome := by
  rw [h.first]
  cases contents with
  | nil => exact Traced.outcome_map_of_ok (h.outside le_rfl) _
  | cons a rest => exact Traced.outcome_map_of_ok (h.inside (Nat.zero_lt_succ _)).1 _

/-- The read of the last element is the checked read below the size. -/
lemma checkedAt_back (some_left : 0 < contents.length) :
    (Except.toOption <$> s.checkedAt (contents.length - 1)).outcome = s.last.outcome := by
  have lt : contents.length - 1 < contents.length := Nat.sub_one_lt_of_lt some_left
  rw [h.last, List.getLast?_eq_getElem?, List.getElem?_eq_getElem lt]
  exact Traced.outcome_map_of_ok (h.inside lt).1 _

/-- All ways agree on whether there is anything to be read. -/
lemma empty_tfae : [s.isEmpty.outcome = .ok true, s.first.outcome = .ok none,
    s.last.outcome = .ok none, s.elements.outcome = .ok []].TFAE := by
  refine List.tfae_of_forall (contents = []) _ fun way listed => ?_
  simp only [List.mem_cons, List.not_mem_nil, or_false] at listed
  rcases listed with rfl | rfl | rfl | rfl
  · rw [h.isEmpty, Except.ok.injEq, List.isEmpty_iff]
  · rw [h.first, Except.ok.injEq, List.head?_eq_none_iff]
  · rw [h.last, Except.ok.injEq, List.getLast?_eq_none_iff]
  · rw [h.elements, Except.ok.injEq]

end ShowsAlike

end Sequence

/-! ## One sequence -/

namespace Access.Holds

variable {s : Sequence α} {contents : List α} (h : s.Holds contents)

include h

lemma outcome_elements : s.elements.outcome = .ok contents := by
  obtain ⟨c, made, yields⟩ := h.iter
  rw [Sequence.elements, Traced.outcome_bind_of_ok made, yields.outcome_collect]

lemma outcome_cursorAt (place : Nat) : (s.cursorAt place).outcome = .ok contents[place]? := by
  obtain ⟨c, made, yields⟩ := h.iter
  rw [Sequence.cursorAt, Traced.outcome_bind_of_ok made,
    Traced.outcome_bind_of_ok (yields.outcome_take _), Traced.outcome_pure,
    List.getElem?_take_of_lt (Nat.lt_succ_self place)]

/-- A well behaved sequence shows its contents in every way, if the reads with a body of their own
tell the truth. -/
lemma showsAlike (truthful : s.isEmpty.outcome = .ok contents.isEmpty)
    (checked : ∀ place, s.checkedAt place = s.toAccess.checkedAt place)
    (first : s.first.outcome = .ok contents.head?)
    (last : s.last.outcome = .ok contents.getLast?) : s.ShowsAlike contents where
  size := h.size
  isEmpty := truthful
  elements := h.outcome_elements
  cursorAt := h.outcome_cursorAt
  inside := by
    intro place lt
    have answer := h.positions.outcome_checkedAt place
    rw [List.getElem?_eq_getElem lt] at answer
    exact ⟨checked place ▸ answer, h.positions.read lt⟩
  outside := by
    intro place le
    have answer := h.positions.outcome_checkedAt place
    rw [List.getElem?_eq_none le] at answer
    exact checked place ▸ answer
  first := first
  last := last
  backward := by
    refine ⟨h.positions.outcome_backward, ?_⟩
    rw [h.positions.outcome_walk]
    simp [Move.answers, Move.onDeque]
  walkFirst := by
    rw [h.positions.outcome_walk]
    simp [Move.answers, Move.onDeque]
  walkLast := by
    rw [h.positions.outcome_walk, h.positions.outcome_walk]
    simp [Move.answers, Move.onDeque]

end Access.Holds

/-! ## Behind layers -/

section Layers

variable [BEq α] {a : Access α} {contents : List α}

/-- Size, cursor and reads come through layers, and with them the contents. -/
lemma stack_holds (holds : a.Holds contents) (layers : List Layer) :
    (a.sequence.stack layers).Holds contents where
  size := (congrArg _ (Sequence.ask_stack layers a.sequence .size)).trans holds.size
  iter := by
    have iter : (a.sequence.stack layers).iter = a.iter :=
      Sequence.ask_stack layers a.sequence .iter
    rw [iter]
    exact holds.iter
  get := fun {i _} stored =>
    (congrArg _ (Sequence.ask_stack layers a.sequence (.get i))).trans (holds.get stored)

/-- Layers tell the truth about being empty by the size; in front of it the sequence decides. -/
lemma isEmpty_stack (holds : a.Holds contents)
    (truthful : a.isEmpty.outcome = .ok contents.isEmpty) (layers : List Layer) :
    (a.sequence.stack layers).isEmpty.outcome = .ok contents.isEmpty := by
  cases layers with
  | nil => exact truthful
  | cons layer inner =>
      have outer : (a.sequence.stack (layer :: inner)).isEmpty =
          (a.sequence.stack inner).sizeIsZero :=
        Sequence.isEmpty_wrap layer (a.sequence.stack inner)
      rw [outer, Sequence.sizeIsZero_stack]
      exact holds.positions.outcome_sizeIsZero

lemma outcome_first_stack (holds : a.Holds contents)
    (truthful : a.isEmpty.outcome = .ok contents.isEmpty) (layers : List Layer) :
    (a.sequence.stack layers).first.outcome = .ok contents.head? := by
  by_cases behind : layers = []
  · subst behind
    exact holds.positions.outcome_first_of_truthful truthful
  · rw [Sequence.first_stack behind]
    exact holds.positions.outcome_firstBySize

lemma outcome_last_stack (holds : a.Holds contents) (layers : List Layer) :
    (a.sequence.stack layers).last.outcome = .ok contents.getLast? := by
  by_cases behind : layers = []
  · subst behind
    exact holds.positions.outcome_last
  · rw [Sequence.last_stack behind]
    exact holds.positions.outcome_last

/-- **All reads agree.**  Take a well behaved sequence that has the default lookups and tells the
truth about being empty, as the default does, behind any layers in any order.

* Every way of reading it shows the contents, at every position and at both ends.
* The reads of the ends are the checked reads there.
* All ways agree on whether there is anything to be read.
* A view of it is one layer more, and both cursors that a view gives away run over the contents. -/
theorem reads_agree (holds : a.Holds contents)
    (truthful : a.isEmpty.outcome = .ok contents.isEmpty) (layers : List Layer) :
    let s := a.sequence.stack layers
    s.ShowsAlike contents ∧
      (Except.toOption <$> s.checkedAt 0).outcome = s.first.outcome ∧
      (0 < contents.length →
        (Except.toOption <$> s.checkedAt (contents.length - 1)).outcome = s.last.outcome) ∧
      [s.isEmpty.outcome = .ok true, s.first.outcome = .ok none, s.last.outcome = .ok none,
        s.elements.outcome = .ok []].TFAE ∧
      ∀ name, ∃ v, (View.make name s).outcome = .ok v ∧
        v.sequence = a.sequence.stack (.view :: layers) ∧
        v.innerElements.outcome = .ok contents ∧ v.intoElements.outcome = .ok contents := by
  intro s
  have behind : s.Holds contents := stack_holds holds layers
  have checked : ∀ place, s.checkedAt place = s.toAccess.checkedAt place := by
    intro place
    have size : s.size = a.size := Sequence.ask_stack layers a.sequence .size
    have get : s.get place = a.get place := Sequence.ask_stack layers a.sequence (.get place)
    have forwarded : s.checkedAt place = a.checkedAt place :=
      Sequence.ask_stack layers a.sequence (.checkedAt place)
    rw [forwarded, Access.checkedAt, Access.checkedAt, size, get]
  have alike : s.ShowsAlike contents :=
    behind.showsAlike (isEmpty_stack holds truthful layers) checked
      (outcome_first_stack holds truthful layers) (outcome_last_stack holds layers)
  refine ⟨alike, alike.checkedAt_front, alike.checkedAt_back, alike.empty_tfae, fun name => ?_⟩
  exact ⟨⟨s, name⟩, Traced.outcome_bind_of_ok behind.size _, rfl, alike.elements, alike.elements⟩

/-- A row of three elements in a newtype, behind a view and another newtype. -/
theorem reads_agree_wrapped :
    let contents : List Int64 := [4, 5, 6]
    let s := (Storage.row contents.toArray).access.sequence.stack [.newtype, .view, .newtype]
    (Storage.row contents.toArray).access.Holds contents ∧
      (s.checkedAt 3).outcome = .ok (.error (.indexTooHigh 3 3)) ∧
      s.first.outcome = .ok (some 4) ∧ s.last.outcome = .ok (some 6) ∧
      s.backward.outcome = .ok [6, 5, 4] := by
  intro contents s
  have holds : (Storage.row contents.toArray).access.Holds contents := Storage.holds _
  have alike := (reads_agree holds rfl [.newtype, .view, .newtype]).1
  exact ⟨holds, alike.outside le_rfl, alike.first, alike.last, alike.backward.1⟩

end Layers

end SequenceKit
