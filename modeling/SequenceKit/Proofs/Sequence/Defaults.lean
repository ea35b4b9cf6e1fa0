import SequenceKit.Proofs.Sequence.Transparency
import SequenceKit.Sequence.View

/-!
# Default bodies behind layers

A layer forwards no emptiness and no read of an end: for these it has the default bodies, run
over its own size and reads.  What that does to a sequence depends on where its own bodies are.

**Emptiness.**  `Access.sizeIsZero` is the default answer.  Behind a layer it is the answer,
whatever the sequence itself would say: `isEmpty_wrap`.

**Only defaults.**  A sequence that has nothing but default bodies is not changed at all by
layers: `stack_sequence` is an equation between sequences, so no method and no mark tells the
stack from what it stands in front of.

**Views of views.**  Several views, each of the one before, are a stack of layers as well:
`View.target_of_nested`.
-/

namespace SequenceKit

variable {α : Type}

/-- Emptiness as the size tells it: what the default body answers. -/
def Access.sizeIsZero (s : Access α) : Traced Bool := do
  return (← s.size) == 0

/-- No layer forwards emptiness. -/
lemma Layer.isEmpty_notMem_methods (layer : Layer) : .isEmpty ∉ layer.methods := by
  cases layer <;> decide

/-- A layer provides size, cursor and reads of what is behind it, and the default emptiness. -/
lemma Access.forwarding_methods (layer : Layer) (s : Access α) :
    s.forwarding layer.methods = { size := s.size, iter := s.iter, get := s.get } := by
  rw [Access.forwarding, if_neg layer.isEmpty_notMem_methods]

namespace Sequence

variable [BEq α]

/-- Behind a layer emptiness is what the size tells. -/
lemma isEmpty_wrap (layer : Layer) (s : Sequence α) :
    (s.wrap layer).isEmpty = s.sizeIsZero := by
  show (s.toAccess.forwarding layer.methods).isEmpty = _
  rw [Access.forwarding_methods, Access.sizeIsZero]

/-- The size that a layer shows tells as much as the size behind it. -/
lemma sizeIsZero_stack (layers : List Layer) (s : Sequence α) :
    (s.stack layers).sizeIsZero = s.sizeIsZero := by
  have same : (s.stack layers).size = s.size := ask_stack layers s .size
  rw [Access.sizeIsZero, same, Access.sizeIsZero]

end Sequence

namespace Access

variable [BEq α] {s : Access α}

/-- Over a sequence of default bodies a layer has the same bodies, forwarded or its own. -/
lemma wrap_sequence (default : s.isEmpty = s.sizeIsZero) (layer : Layer) :
    s.sequence.wrap layer = s.sequence := by
  have own : s.forwarding layer.methods = s := by
    rw [forwarding_methods]
    show Access.mk s.size s.sizeIsZero s.iter s.get = s
    rw [← default]
  rw [Sequence.wrap, Sequence.forwarding, show s.sequence.toAccess = s from rfl, own]
  -- each method is either forwarded or the same default body over `s`
  simp only [sequence, ite_self]

/-- Layers in front of default bodies change nothing. -/
lemma stack_sequence (default : s.isEmpty = s.sizeIsZero) (layers : List Layer) :
    s.sequence.stack layers = s.sequence := by
  induction layers with
  | nil => rfl
  | cons layer inner ih =>
      show (s.sequence.stack inner).wrap layer = _
      rw [ih, wrap_sequence default]

end Access

/-! ## Several views -/

namespace View

/-- What a new view looks at. -/
lemma target_of_make {name : TypeName} {s : Sequence α} {v : View α}
    (made : (make name s).outcome = .ok v) : v.target = s := by
  obtain ⟨size, -, rest⟩ := Traced.exists_of_outcome_bind made
  obtain ⟨_, -, last⟩ := Traced.exists_of_outcome_bind rest
  cases last
  rfl

variable [BEq α]

/-- The outermost of several views looks at the sequence through all the others. -/
lemma target_of_nested {name : TypeName} {s : Sequence α} {further : Nat} {v : View α}
    (made : (nested name s further).outcome = .ok v) :
    v.target = s.stack (List.replicate further .view) := by
  induction further generalizing v with
  | zero => exact target_of_make made
  | succ further ih =>
      obtain ⟨inner, madeInner, madeOuter⟩ := Traced.exists_of_outcome_bind made
      rw [target_of_make madeOuter, sequence, ih madeInner]
      rfl

/-- Views of a sequence that tells its size can be made, one of the other. -/
lemma exists_nested {s : Sequence α} {n : Nat} (size : s.size.outcome = .ok n)
    (name : TypeName) (further : Nat) : ∃ v, (nested name s further).outcome = .ok v := by
  induction further with
  | zero => exact ⟨_, Traced.outcome_bind_of_ok size _⟩
  | succ further ih =>
      obtain ⟨inner, made⟩ := ih
      have behind : inner.sequence.size = s.size := by
        rw [View.sequence, target_of_nested made]
        exact (Sequence.ask_wrap .view _ .size).trans (Sequence.ask_stack _ s .size)
      rw [nested, Traced.outcome_bind_of_ok made, make, behind, Traced.outcome_bind_of_ok size]
      exact ⟨_, rfl⟩

end View

end SequenceKit
