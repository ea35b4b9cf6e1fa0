import SequenceKit.Instrumented.Tally
import SequenceKit.Proofs.Sequence.Defaults

/-!
# The two faces of a view

A view answers for size, emptiness, membership, index and count in two ways: by methods of its
own, which go to the target at once, and as a sequence, by the methods of the layer.

**Where they agree.**  Size, membership, index and count are forwarded by the layer, so the two
ways are one, at any depth.

**Where they do not.**  The layer does not forward emptiness.  As a sequence a view says whether
its size is 0; by its own method it says what the target says.  For the innermost of several
views the target may have an opinion of its own, for the others the target is again a view.

* **`own_methods_agree`** — all five methods, at any depth, and exactly when emptiness agrees.
* `own_methods_disagree` — a sequence that calls itself empty while it has two elements.
-/

namespace SequenceKit.View

variable {α : Type} [BEq α]

/-- **The methods of a view are its methods as a sequence, except for emptiness.**  Let `v` be the
outermost of `further + 1` views of `s`, whatever methods `s` has of its own.  Asked for size,
membership, index or count, `v` does the same in both ways.  As a sequence it is empty when the
size is 0.  By its own method it is empty when the size is 0 too, unless it looks at `s` directly:
then `s` decides.  So the two ways agree if there are further views in between, and otherwise
exactly if `s` calls itself empty when its size is 0. -/
theorem own_methods_agree {name : TypeName} {s : Sequence α} {further : Nat} {v : View α}
    (made : (nested name s further).outcome = .ok v) (value : α) :
    (v.ownSize = v.sequence.size ∧
      v.ownContains value = v.sequence.contains value ∧
      v.ownIndex value = v.sequence.index value ∧
      v.ownCount value = v.sequence.count value) ∧
    v.sequence.isEmpty = s.sizeIsZero ∧
    v.ownIsEmpty = (if further = 0 then s.isEmpty else s.sizeIsZero) ∧
    (v.ownIsEmpty.outcome = v.sequence.isEmpty.outcome ↔
      0 < further ∨ s.isEmpty.outcome = s.sizeIsZero.outcome) := by
  have target := target_of_nested made
  have forwarded (r : Request α) : v.target.ask r = v.sequence.ask r :=
    (Sequence.ask_wrap .view v.target r).symm
  have asSequence : v.sequence.isEmpty = s.sizeIsZero := by
    rw [sequence, Sequence.isEmpty_wrap, target, Sequence.sizeIsZero_stack]
  have byItself : v.ownIsEmpty = if further = 0 then s.isEmpty else s.sizeIsZero := by
    rw [ownIsEmpty, target]
    cases further with
    | zero => rfl
    | succ further =>
        rw [if_neg (Nat.succ_ne_zero further), List.replicate_succ]
        show ((s.stack (List.replicate further .view)).wrap .view).isEmpty = _
        rw [Sequence.isEmpty_wrap, Sequence.sizeIsZero_stack]
  refine ⟨⟨forwarded .size, forwarded (.contains value), forwarded (.index value),
    forwarded (.count value)⟩, asSequence, byItself, ?_⟩
  rw [asSequence, byItself]
  cases further with
  | zero => simp
  | succ further => simp

/-- A recording sequence that calls itself empty and holds two elements. -/
def falselyEmpty : Sequence Int64 :=
  (Tally.mk true #[7, 8]).sequence

/-- The name of its type. -/
def tallyName : TypeName :=
  .path ["Tally"] []

/-- Two views of it: the outer one asks the inner one in both ways. -/
theorem own_methods_agree_twice :
    ∃ v, (nested tallyName falselyEmpty 1).outcome = .ok v ∧
      v.ownIndex 9 = v.sequence.index 9 ∧
      v.ownIsEmpty.outcome = v.sequence.isEmpty.outcome := by
  have made : (nested tallyName falselyEmpty 1).outcome =
      .ok ⟨falselyEmpty.wrap .view, .viewOf tallyName⟩ := rfl
  have methods := own_methods_agree made 9
  exact ⟨_, made, methods.1.2.2.1, methods.2.2.2.mpr (.inl Nat.one_pos)⟩

/-- One view of it: by its own method the view is empty, as a sequence it is not. -/
theorem own_methods_disagree :
    ∃ v, (nested tallyName falselyEmpty 0).outcome = .ok v ∧
      v.ownIsEmpty.outcome = .ok true ∧ v.sequence.isEmpty.outcome = .ok false :=
  ⟨_, rfl, rfl, rfl⟩

end SequenceKit.View
