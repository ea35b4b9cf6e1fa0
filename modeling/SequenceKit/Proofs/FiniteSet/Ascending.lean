import Mathlib.Tactic.SplitIfs
import SequenceKit.FiniteSet.Ordered
import SequenceKit.Proofs.Element.Lawful

/-!
# Ascending lists

An ordered set keeps an ascending list and stops at the first element that is not below the one
it is asked for.  On an ascending list that is far enough: all that follow are above that one.

* `OrderedSet.Ascending` — each element is above the ones before it.
* `search_eq`, `remove_eq` — looking for an element, and taking it out, reaches the whole list.
* `place_of_any`, `place_perm` — an element that is there stays, another one is added.
* `ascending_place` — the list stays ascending.
-/

namespace SequenceKit.OrderedSet

variable {α : Type} [Element α]

/-- Each element of a list is above the ones before it. -/
def Ascending (as : List α) : Prop :=
  as.Pairwise fun a b => Element.greater b a = true

lemma mem_place {a c : α} {as : List α} (mem : c ∈ place a as) : c = a ∨ c ∈ as := by
  induction as with
  | nil => exact .inl (List.mem_singleton.mp mem)
  | cons b rest ih =>
      rw [place] at mem
      split_ifs at mem with above below
      · rcases List.mem_cons.mp mem with rfl | later
        · exact .inr List.mem_cons_self
        · exact (ih later).imp_right (List.mem_cons_of_mem b)
      · exact List.mem_cons.mp mem
      · exact .inr mem

variable [BEq α] [LawfulElement α] {as : List α}

/-- What is below all elements of a list equals none of them. -/
lemma any_beq_eq_false_of_below {a : α} (below : ∀ c ∈ as, Element.greater c a = true) :
    as.any (· == a) = false := by
  rw [List.any_eq_false]
  intro _ mem
  rw [beq_false_of_greater (below _ mem)]
  exact Bool.false_ne_true

/-- In an ascending list, what is below the head is below the rest. -/
lemma below_of_below_head {a b : α} {rest : List α} (below : Element.greater b a = true)
    (ascending : Ascending (b :: rest)) : ∀ c ∈ rest, Element.greater c a = true :=
  fun _ mem => LawfulElement.greater_trans (List.rel_of_pairwise_cons ascending mem) below

lemma search_eq (ascending : Ascending as) (a : α) : search a as = as.any (· == a) := by
  induction as with
  | nil => rfl
  | cons b rest ih =>
      rw [search, List.any_cons]
      split_ifs with above
      · have different : (b == a) = false := by
          rw [BEq.comm, beq_false_of_greater above]
        rw [ih ascending.of_cons, different, Bool.false_or]
      · rw [Bool.not_eq_true] at above
        cases below : Element.greater b a with
        | true =>
            rw [beq_false_of_greater below,
              any_beq_eq_false_of_below (below_of_below_head below ascending)]
            rfl
        | false =>
            rw [LawfulElement.beq_iff.mpr ⟨below, above⟩]
            rfl

lemma place_of_any (ascending : Ascending as) {a : α} (present : as.any (· == a) = true) :
    place a as = as := by
  induction as with
  | nil => exact Bool.noConfusion present
  | cons b rest ih =>
      rw [List.any_cons] at present
      rw [place]
      split_ifs with above below
      · rw [BEq.comm, beq_false_of_greater above, Bool.false_or] at present
        rw [ih ascending.of_cons present]
      · rw [beq_false_of_greater below,
          any_beq_eq_false_of_below (below_of_below_head below ascending)] at present
        exact Bool.noConfusion present
      · rfl

lemma place_perm {a : α} (absent : as.any (· == a) = false) :
    (place a as).Perm (a :: as) := by
  induction as with
  | nil => exact .refl [a]
  | cons b rest ih =>
      rw [List.any_cons, Bool.or_eq_false_iff] at absent
      rw [place]
      split_ifs with above below
      · exact ((ih absent.2).cons b).trans (.swap a b rest)
      · exact .refl _
      · rw [Bool.not_eq_true] at above below
        rw [LawfulElement.beq_iff.mpr ⟨below, above⟩] at absent
        exact Bool.noConfusion absent.1

lemma ascending_place (ascending : Ascending as) (a : α) : Ascending (place a as) := by
  induction as with
  | nil => exact List.pairwise_singleton _ a
  | cons b rest ih =>
      rw [place]
      split_ifs with above below
      · refine List.pairwise_cons.mpr ⟨?_, ih ascending.of_cons⟩
        intro c mem
        rcases mem_place mem with rfl | later
        · exact above
        · exact List.rel_of_pairwise_cons ascending later
      · refine List.pairwise_cons.mpr ⟨?_, ascending⟩
        intro c mem
        rcases List.mem_cons.mp mem with rfl | later
        · exact below
        · exact below_of_below_head below ascending c later
      · exact ascending

lemma remove_eq (ascending : Ascending as) (a : α) : remove a as = as.filter (!· == a) := by
  induction as with
  | nil => rfl
  | cons b rest ih =>
      -- Behind an element that is not below the one to take out, nothing is taken out.
      have kept (below : ∀ c ∈ rest, Element.greater c a = true) :
          rest.filter (!· == a) = rest := by
        rw [List.filter_eq_self]
        intro c mem
        rw [beq_false_of_greater (below c mem)]
        rfl
      rw [remove]
      split_ifs with above below
      · have different : (!b == a) = true := by
          rw [BEq.comm, beq_false_of_greater above]
          rfl
        rw [List.filter_cons, if_pos different, ih ascending.of_cons]
      · have different : (!b == a) = true := by
          rw [beq_false_of_greater below]
          rfl
        rw [List.filter_cons, if_pos different, kept (below_of_below_head below ascending)]
      · rw [Bool.not_eq_true] at above below
        have same : (b == a) = true := LawfulElement.beq_iff.mpr ⟨below, above⟩
        have gone : ¬(!b == a) = true := by
          rw [same]
          exact Bool.false_ne_true
        rw [List.filter_cons, if_neg gone, kept]
        intro c mem
        exact greater_of_greater_of_beq (List.rel_of_pairwise_cons ascending mem) same

end SequenceKit.OrderedSet
