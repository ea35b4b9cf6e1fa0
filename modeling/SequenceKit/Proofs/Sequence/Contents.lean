import Mathlib.Tactic.Lemma
import SequenceKit.Storage.Basic

/-!
# What a sequence holds

Nothing makes size, cursor and reads by position agree.  A sequence in which they do is well
behaved: the three of them show one list, its contents.  What marks they leave on the way is not
restricted, nor is what a read outside the contents does.

* `Cursor.Yields` — the elements that a cursor runs over.
* **`Access.Holds`** — a well behaved sequence and its contents.
* `Storage.holds` — stored elements are well behaved.
-/

namespace SequenceKit

variable {α : Type}

/-- The cursor runs over the given elements and finds the end behind the last. -/
inductive Cursor.Yields : Cursor α → List α → Prop
  | done (marks : List Event) : Yields (.done marks) []
  | yield (marks : List Event) (a : α) {rest : Unit → Cursor α} {as : List α}
      (later : Yields (rest ()) as) : Yields (.yield marks a rest) (a :: as)

namespace Cursor.Yields

variable {c : Cursor α} {as : List α}

/-- A pass that stops at the first hit finds one exactly if there is one. -/
lemma outcome_any (h : c.Yields as) (p : α → Bool) : (c.any p).outcome = .ok (as.any p) := by
  induction h with
  | done marks => rfl
  | yield marks a later ih =>
      rw [Cursor.any, List.any_cons]
      cases hit : p a with
      | true => rfl
      | false => rw [if_neg Bool.false_ne_true, Traced.outcome_after, ih, Bool.false_or]

/-- A whole pass collects the elements. -/
lemma outcome_collect (h : c.Yields as) : c.collect.outcome = .ok as := by
  induction h with
  | done marks => rfl
  | yield marks a later ih =>
      rw [Cursor.collect, Traced.outcome_after, Traced.outcome_map_of_ok ih]

/-- A pass over the first elements collects these. -/
lemma outcome_take (h : c.Yields as) (n : Nat) : (c.take n).outcome = .ok (as.take n) := by
  induction h generalizing n with
  | done marks => cases n <;> simp [Cursor.take]
  | yield marks a later ih =>
      cases n with
      | zero => rfl
      | succ n =>
          rw [Cursor.take, Traced.outcome_after, Traced.outcome_map_of_ok (ih n),
            List.take_succ_cons]

end Cursor.Yields

lemma Cursor.yields_ofList (marks : List Event) (as : List α) :
    (Cursor.ofList marks as).Yields as := by
  induction as with
  | nil => exact .done marks
  | cons a rest ih => exact .yield marks a ih

/-- Size, cursor and reads by position show the same contents.  What a read does at a position
that is not below the size is left open. -/
structure Access.Holds (s : Access α) (contents : List α) : Prop where
  size : s.size.outcome = .ok contents.length
  iter : ∃ c, s.iter.outcome = .ok c ∧ c.Yields contents
  get : ∀ {i : Nat} {a : α}, contents[i]? = some a → (s.get i).outcome = .ok a

/-- Stored elements are well behaved. -/
lemma Storage.holds (s : Storage α) : s.access.Holds s.toList where
  size := by simp [Storage.access]
  iter := ⟨_, rfl, Cursor.yields_ofList [] s.toList⟩
  get := by
    intro i a stored
    rw [Storage.getElem?_toList] at stored
    simp [Storage.access, Storage.get, stored]

end SequenceKit
