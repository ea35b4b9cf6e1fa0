import Mathlib.Tactic.Lemma
import SequenceKit.Element.Basic

/-!
# Lawful elements

Sequences compare their elements in whatever way these like to be compared.  Sets rely on laws: two
elements are equal, or one of them is above the other, and of these three exactly one is the case;
being equal is an equivalence, and being above is transitive.  Equal elements need not be the same.

* `LawfulElement` — the laws.
* `greater_of_greater_of_beq` — what is above one of two equal elements is above the other.
* `not_greater_trans` — not being above is transitive, too.
* `LawfulElement.of_linear` — elements in a linear order are lawful.
-/

namespace SequenceKit

/-- The laws of equality and order that a set asks of its elements. -/
class LawfulElement (α : Type) [BEq α] [Element α] : Prop extends EquivBEq α where
  greater_trans : ∀ {a b c : α}, Element.greater a b = true → Element.greater b c = true →
    Element.greater a c = true
  greater_asymm : ∀ {a b : α}, Element.greater a b = true → Element.greater b a = false
  /-- Elements are equal exactly if neither is above the other. -/
  beq_iff : ∀ {a b : α}, (a == b) = true ↔
    Element.greater a b = false ∧ Element.greater b a = false

section Laws

open LawfulElement

variable {α : Type} [BEq α] [Element α] [LawfulElement α] {a b c : α}

lemma beq_false_of_greater (above : Element.greater a b = true) : (a == b) = false := by
  cases equal : a == b with
  | false => rfl
  | true =>
      rw [beq_iff, above] at equal
      exact Bool.noConfusion equal.1

/-- Of two elements that are not equal one is above the other. -/
lemma greater_or_greater (different : (a == b) = false) :
    Element.greater a b = true ∨ Element.greater b a = true := by
  cases above : Element.greater a b with
  | true => exact .inl rfl
  | false =>
      cases below : Element.greater b a with
      | true => exact .inr rfl
      | false =>
          rw [beq_iff.mpr ⟨above, below⟩] at different
          exact Bool.noConfusion different

/-- What is above one of two equal elements is above the other. -/
lemma greater_of_greater_of_beq (above : Element.greater a b = true) (equal : (b == c) = true) :
    Element.greater a c = true := by
  cases same : a == c with
  | true =>
      have : (a == b) = true := BEq.trans same (BEq.symm equal)
      rw [beq_false_of_greater above] at this
      exact Bool.noConfusion this
  | false =>
      rcases greater_or_greater same with done | below
      · exact done
      · have : Element.greater c b = true := greater_trans below above
        rw [(beq_iff.mp equal).2] at this
        exact Bool.noConfusion this

lemma not_greater_trans (first : Element.greater a b = false)
    (second : Element.greater b c = false) : Element.greater a c = false := by
  rw [Bool.eq_false_iff]
  intro above
  cases same : b == c with
  | true =>
      have : Element.greater a b = true := greater_of_greater_of_beq above (BEq.symm same)
      rw [first] at this
      exact Bool.noConfusion this
  | false =>
      rcases greater_or_greater same with done | below
      · rw [second] at done
        exact Bool.noConfusion done
      · have : Element.greater a b = true := greater_trans above below
        rw [first] at this
        exact Bool.noConfusion this

end Laws

/-- Elements of a linear order are lawful, if equality is identity and the order is the one by
which they are compared. -/
theorem LawfulElement.of_linear {α : Type} [BEq α] [LawfulBEq α] [Element α] [LT α] [LE α]
    [DecidableLT α] [Std.IsLinearOrder α] [Std.LawfulOrderLT α]
    (greater : ∀ a b : α, Element.greater a b = decide (b < a)) : LawfulElement α where
  greater_trans := by
    intro a b c
    simp only [greater, decide_eq_true_eq]
    exact fun above below => Std.lt_trans below above
  greater_asymm := by
    intro a b
    simp only [greater, decide_eq_true_eq, decide_eq_false_iff_not]
    exact fun above below => Std.lt_irrefl (Std.lt_trans below above)
  beq_iff := by
    intro a b
    simp only [greater, beq_iff_eq, decide_eq_false_iff_not, Std.not_lt]
    constructor
    · rintro rfl
      exact ⟨Std.le_refl a, Std.le_refl a⟩
    · rintro ⟨le, ge⟩
      exact Std.le_antisymm le ge

instance : LawfulElement Int64 := .of_linear fun _ _ => rfl

instance : LawfulElement UInt8 := .of_linear fun _ _ => rfl

instance : LawfulElement Char := .of_linear fun _ _ => rfl

instance : LawfulElement String := .of_linear fun _ _ => rfl

end SequenceKit
