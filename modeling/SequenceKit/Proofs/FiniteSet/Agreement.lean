import SequenceKit.Session.Set
import SequenceKit.Proofs.FiniteSet.Ascending
import SequenceKit.Proofs.Session.Slots

/-!
# Sets stay in step

An ordered and an unordered set keep their elements in different ways.  Asked the same, they have
to give the same answers, and the answers have to fit what the cursor yields.

**Two sets with the same elements.**  `Agree` is what ties them together: the list of the one is
ascending, and the list of the other is a rearrangement of it.  Every step keeps this
(`Agree.step`) and so does every run (`Agree.after`).

**One set and its cursor.**  An unordered set yields its elements in some order or other.
`SetSubject.InStep` says that size, membership, insertion and removal fit an order; it holds for
each order in which the elements may come.

* **`sets_stay_in_step`** — at every point of every run.
-/

namespace SequenceKit

variable {α : Type} [BEq α] [Element α]

/-! ## Two sets with the same elements -/

/-- An ordered and an unordered set have the same elements. -/
structure Agree (tree : OrderedSet α) (hash : UnorderedSet α) : Prop where
  ascending : OrderedSet.Ascending tree.items
  same : tree.items.Perm hash.items

namespace Agree

variable [LawfulElement α] {tree : OrderedSet α} {hash : UnorderedSet α}

lemma contains_eq (agree : Agree tree hash) (a : α) : tree.contains a = hash.contains a := by
  rw [OrderedSet.contains, OrderedSet.search_eq agree.ascending, UnorderedSet.contains,
    agree.same.any_eq]

lemma insert (agree : Agree tree hash) (a : α) :
    (tree.insert a).1 = (hash.insert a).1 ∧ Agree (tree.insert a).2 (hash.insert a).2 := by
  rw [OrderedSet.insert, UnorderedSet.insert, agree.contains_eq]
  cases present : hash.contains a with
  | true =>
      have there : tree.items.any (· == a) = true := agree.same.any_eq.trans present
      refine ⟨rfl, ?_, ?_⟩
      · exact OrderedSet.ascending_place agree.ascending a
      · show (OrderedSet.place a tree.items).Perm hash.items
        rw [OrderedSet.place_of_any agree.ascending there]
        exact agree.same
  | false =>
      have absent : tree.items.any (· == a) = false := agree.same.any_eq.trans present
      refine ⟨rfl, ?_, ?_⟩
      · exact OrderedSet.ascending_place agree.ascending a
      · exact (OrderedSet.place_perm absent).trans (agree.same.cons a)

lemma erase (agree : Agree tree hash) (a : α) :
    (tree.erase a).1 = (hash.erase a).1 ∧ Agree (tree.erase a).2 (hash.erase a).2 := by
  refine ⟨agree.contains_eq a, ?_, ?_⟩
  · show OrderedSet.Ascending (OrderedSet.remove a tree.items)
    rw [OrderedSet.remove_eq agree.ascending]
    exact agree.ascending.filter _
  · show (OrderedSet.remove a tree.items).Perm (hash.items.filter (!· == a))
    rw [OrderedSet.remove_eq agree.ascending]
    exact agree.same.filter _

lemma ofList (items : List α) : Agree (OrderedSet.ofList items) (UnorderedSet.ofList items) := by
  -- The elements are inserted one by one, so that the sets agree all the way.
  have filled (tree : OrderedSet α) (hash : UnorderedSet α) (agree : Agree tree hash) :
      Agree (items.foldl (fun s a => (s.insert a).2) tree)
        (items.foldl (fun s a => (s.insert a).2) hash) := by
    induction items generalizing tree hash with
    | nil => exact agree
    | cons a rest ih => exact ih _ _ (agree.insert a).2
  exact filled _ _ ⟨.nil, .refl []⟩

/-- No element is there twice, in whatever order they come. -/
lemma distinct (agree : Agree tree hash) {order : List α} (perm : order.Perm hash.items) :
    order.Pairwise fun a b => (a == b) = false := by
  have ascending : tree.items.Pairwise fun a b => (a == b) = false := by
    refine agree.ascending.imp ?_
    intro a b above
    rw [BEq.comm, beq_false_of_greater above]
  refine ((agree.same.trans perm.symm).pairwise_iff ?_).mp ascending
  intro a b different
  rw [BEq.comm, different]

/-- Sorting brings the elements into the one order in which they ascend. -/
lemma sorted_eq (agree : Agree tree hash) : hash.sorted = tree.items := by
  have perm : hash.sorted.Perm hash.items := List.mergeSort_perm _ _
  have sorted : hash.sorted.Pairwise fun a b => (!Element.greater a b) = true := by
    refine List.pairwise_mergeSort ?_ ?_ hash.items
    · intro a b c ab bc
      rw [Bool.not_eq_true'] at ab bc ⊢
      exact not_greater_trans ab bc
    · intro a b
      cases above : Element.greater a b with
      | true => simp [LawfulElement.greater_asymm above]
      | false => rfl
  have ascending : OrderedSet.Ascending hash.sorted := by
    refine sorted.imp₂ ?_ (agree.distinct perm)
    intro a b ordered different
    rw [Bool.not_eq_true'] at ordered
    rcases greater_or_greater different with above | above
    · rw [above] at ordered
      exact Bool.noConfusion ordered
    · exact above
  refine List.Perm.eq_of_pairwise ?_ ascending agree.ascending (perm.trans agree.same.symm)
  intro a b _ _ above below
  rw [LawfulElement.greater_asymm above] at below
  exact Bool.noConfusion below

/-- **A step keeps two sets in agreement**, and they report the same. -/
lemma step (agree : Agree tree hash) (st : SetStep α) :
    ((SetSubject.ordered tree).step st).1 = ((SetSubject.unordered hash).step st).1 ∧
      ∃ tree' hash', ((SetSubject.ordered tree).step st).2 = .ordered tree' ∧
        ((SetSubject.unordered hash).step st).2 = .unordered hash' ∧ Agree tree' hash' := by
  have unchanged : ∃ tree' hash', SetSubject.ordered tree = .ordered tree' ∧
      SetSubject.unordered hash = .unordered hash' ∧ Agree tree' hash' :=
    ⟨tree, hash, rfl, rfl, agree⟩
  have same_size : tree.size = hash.size := agree.same.length_eq
  cases st with
  | size =>
      refine ⟨?_, unchanged⟩
      simp only [SetSubject.step, SetSubject.size, same_size]
  | isEmpty =>
      refine ⟨?_, unchanged⟩
      simp only [SetSubject.step, SetSubject.size, same_size]
  | contains value =>
      refine ⟨?_, unchanged⟩
      simp only [SetSubject.step, SetSubject.contains, agree.contains_eq]
  | elements =>
      refine ⟨?_, unchanged⟩
      simp only [SetSubject.step, SetSubject.toList, agree.sorted_eq]
  | insert value =>
      obtain ⟨answer, later⟩ := agree.insert value
      refine ⟨?_, _, _, rfl, rfl, later⟩
      simp only [SetSubject.step, SetSubject.insert, answer]
  | remove value =>
      obtain ⟨answer, later⟩ := agree.erase value
      refine ⟨?_, _, _, rfl, rfl, later⟩
      simp only [SetSubject.step, SetSubject.erase, answer]
  | unknown => exact ⟨rfl, unchanged⟩

end Agree

/-! ## Runs -/

/-- What all steps leave of a set. -/
def SetSubject.after (s : SetSubject α) : List (SetStep α) → SetSubject α
  | [] => s
  | st :: later => (s.step st).2.after later

lemma SetSubject.run_cons (s : SetSubject α) (st : SetStep α) (later : List (SetStep α)) :
    s.run (st :: later) = (s.step st).1 :: (s.step st).2.run later := rfl

/-- A run goes on from what the earlier steps have left. -/
lemma SetSubject.run_append (s : SetSubject α) (earlier later : List (SetStep α)) :
    s.run (earlier ++ later) = s.run earlier ++ (s.after earlier).run later := by
  induction earlier generalizing s with
  | nil => rfl
  | cons st rest ih => exact congrArg ((s.step st).1 :: ·) (ih (s.step st).2)

lemma Agree.after [LawfulElement α] {tree : OrderedSet α} {hash : UnorderedSet α}
    (agree : Agree tree hash) (steps : List (SetStep α)) :
    (SetSubject.ordered tree).run steps = (SetSubject.unordered hash).run steps ∧
      ∃ tree' hash', (SetSubject.ordered tree).after steps = .ordered tree' ∧
        (SetSubject.unordered hash).after steps = .unordered hash' ∧ Agree tree' hash' := by
  induction steps generalizing tree hash with
  | nil => exact ⟨rfl, tree, hash, rfl, rfl, agree⟩
  | cons st later ih =>
      obtain ⟨answer, tree', hash', treeStep, hashStep, agree'⟩ := agree.step st
      obtain ⟨answers, left⟩ := ih agree'
      rw [SetSubject.run_cons, SetSubject.run_cons, SetSubject.after, SetSubject.after, treeStep,
        hashStep, answer, answers]
      exact ⟨rfl, left⟩

/-! ## A set and its cursor -/

/-- The cursor of a set may yield the elements in this order: an ordered set yields them as it
keeps them, an unordered set in any order. -/
def SetSubject.Yields : SetSubject α → List α → Prop
  | ordered s, order => order = s.items
  | unordered s, order => order.Perm s.items

omit [BEq α] in
/-- The elements as they are listed come in one of the orders of the cursor. -/
lemma SetSubject.yields_toList (s : SetSubject α) : s.Yields s.toList := by
  cases s with
  | ordered tree => rfl
  | unordered hash => exact List.mergeSort_perm _ _

/-- What a set answers fits an order of its elements, now and after one more change. -/
structure SetSubject.InStep (s : SetSubject α) (order : List α) : Prop where
  size : (s.step .size).1 = .ofAnswer (.number order.length)
  isEmpty : (s.step .isEmpty).1 = .ofAnswer (.truth order.isEmpty)
  distinct : order.Pairwise fun a b => (a == b) = false
  contains (v : α) : (s.step (.contains v)).1 = .ofAnswer (.truth (order.any (· == v)))
  insert (v : α) : (s.step (.insert v)).1 = .ofAnswer (.truth (!order.any (· == v)))
  remove (v : α) : (s.step (.remove v)).1 = .ofAnswer (.truth (order.any (· == v)))
  inserted (v w : α) : (s.step (.insert v)).2.contains w = (v == w || order.any (· == w))
  removed (v w : α) : (s.step (.remove v)).2.contains w = (!v == w && order.any (· == w))

namespace UnorderedSet

variable [LawfulElement α] (s : UnorderedSet α) (a b : α)

omit [Element α] [LawfulElement α] in
lemma insert_fst : (s.insert a).1 = !s.contains a := by
  rw [insert]
  cases s.contains a with
  | true => rfl
  | false => rfl

lemma contains_of_beq {a b : α} (equal : (a == b) = true) : s.contains a = s.contains b := by
  rw [contains, contains]
  congr 1
  funext c
  rw [BEq.congr_right equal]

lemma contains_insert : (s.insert a).2.contains b = (a == b || s.contains b) := by
  cases present : s.contains a with
  | true =>
      rw [insert, if_pos present]
      cases equal : a == b with
      | true => exact (s.contains_of_beq equal).symm.trans present
      | false => rfl
  | false =>
      rw [insert, if_neg (by simp [present])]
      rfl

lemma contains_erase : (s.erase a).2.contains b = (!a == b && s.contains b) := by
  show (s.items.filter (!· == a)).any (· == b) = _
  rw [List.any_filter]
  cases equal : a == b with
  | true =>
      rw [List.any_eq_false.mpr]
      · rfl
      · intro c _
        rw [BEq.congr_right equal]
        simp
  | false =>
      show _ = s.items.any (· == b)
      congr 1
      funext c
      cases same : c == b with
      | true =>
          rw [Bool.and_true, Bool.not_eq_true']
          rw [BEq.congr_left same, BEq.comm, equal]
      | false => exact Bool.and_false _

end UnorderedSet

section InStep

variable [LawfulElement α] {tree : OrderedSet α} {hash : UnorderedSet α} {order : List α}

/-- An unordered set is in step with every order of its elements. -/
lemma Agree.inStep_unordered (agree : Agree tree hash) (perm : order.Perm hash.items) :
    (SetSubject.unordered hash).InStep order := by
  have member (v : α) : order.any (· == v) = hash.contains v := perm.any_eq
  refine ⟨?_, ?_, agree.distinct perm, ?_, ?_, ?_, ?_, ?_⟩
  · rw [perm.length_eq]
    rfl
  · have empty : (hash.size == 0) = order.isEmpty := by
      rw [UnorderedSet.size, ← perm.length_eq]
      cases order with
      | nil => rfl
      | cons a rest => rfl
    rw [← empty]
    rfl
  · intro v
    rw [member]
    rfl
  · intro v
    rw [member, ← hash.insert_fst]
    rfl
  · intro v
    rw [member]
    rfl
  · intro v w
    rw [member]
    exact hash.contains_insert v w
  · intro v w
    rw [member]
    exact hash.contains_erase v w

/-- An ordered set answers as the unordered set with the same elements. -/
lemma Agree.inStep_ordered (agree : Agree tree hash) (perm : order.Perm hash.items) :
    (SetSubject.ordered tree).InStep order := by
  have inStep := agree.inStep_unordered perm
  have reports (st : SetStep α) := (agree.step st).1
  have contents (st : SetStep α) (w : α) : ((SetSubject.ordered tree).step st).2.contains w =
      ((SetSubject.unordered hash).step st).2.contains w := by
    obtain ⟨-, tree', hash', treeStep, hashStep, agree'⟩ := agree.step st
    rw [treeStep, hashStep]
    exact agree'.contains_eq w
  refine ⟨?_, ?_, inStep.distinct, ?_, ?_, ?_, ?_, ?_⟩
  · rw [reports, inStep.size]
  · rw [reports, inStep.isEmpty]
  · intro v
    rw [reports, inStep.contains]
  · intro v
    rw [reports, inStep.insert]
  · intro v
    rw [reports, inStep.remove]
  · intro v w
    rw [contents, inStep.inserted]
  · intro v w
    rw [contents, inStep.removed]

end InStep

/-! ## Asking for many values -/

/-- Asks for values in turn, until one is missing. -/
def hasAll (member : α → Traced Bool) : List α → Traced Bool
  | [] => pure true
  | v :: rest => do
      if ← member v then hasAll member rest else pure false

omit [BEq α] [Element α] in
lemma outcome_hasAll {member : α → Traced Bool} {p : α → Bool}
    (answers : ∀ v, (member v).outcome = .ok (p v)) (values : List α) :
    (hasAll member values).outcome = .ok (values.all p) := by
  induction values with
  | nil => rfl
  | cons v rest ih =>
      rw [hasAll, Traced.outcome_bind_of_ok (answers v), List.all_cons]
      cases p v with
      | true => exact ih
      | false => rfl

/-- Whether a value is in a set; nothing is left behind and nothing can stop it. -/
def SetSubject.hasMember (s : SetSubject α) (v : α) : Traced Bool :=
  pure (s.contains v)

omit [Element α] in
/-- A stored container has the values that it was made of. -/
lemma Kind.outcome_hasMember (k : Kind) (items : List α) (v : α) :
    ((k.sequence (k.store items)).hasMember v).outcome = .ok (items.any (· == v)) := by
  have holds := (k.store items).holds
  rw [k.toList_store] at holds
  rw [k.sequence_eq]
  exact holds.outcome_contains v

section Contents

variable [LawfulElement α]

/-- A new set has the values that it was made of, however often these came. -/
lemma UnorderedSet.contains_ofList (items : List α) (v : α) :
    (UnorderedSet.ofList items).contains v = items.any (· == v) := by
  have filled (s : UnorderedSet α) : (items.foldl (fun s a => (s.insert a).2) s).contains v =
      (s.contains v || items.any (· == v)) := by
    induction items generalizing s with
    | nil => exact (Bool.or_false _).symm
    | cons a rest ih =>
        rw [List.foldl_cons, ih, s.contains_insert, List.any_cons, Bool.or_left_comm,
          Bool.or_assoc]
  exact filled .empty

/-- **Sets keep size, cursor and membership in step.**  Let an ordered and an unordered set be
made of the same items, which may repeat, and take the same steps.

* At every point each of the sets is in step with its cursor, whatever the order in which this
  one yields: size, emptiness and membership fit, no element comes twice, and the answers to an
  insertion and a removal say whether the element was absent or there.
* The ordered cursor is strictly ascending, and the two cursors yield the same elements; the list
  of elements is one of their orders.
* All reports are the same, and the next one is what the set answers after the steps.
* Any values are found in all of the new sets, or in none, as they are found in a container of any
  kind that stores the items. -/
theorem sets_stay_in_step (items : List α) (steps : List (SetStep α)) :
    let ordered := SetSubject.ordered (.ofList items)
    let unordered := SetSubject.unordered (.ofList items)
    (∀ order, (ordered.after steps).Yields order →
      (ordered.after steps).InStep order ∧ OrderedSet.Ascending order) ∧
    (∀ order, (unordered.after steps).Yields order → (unordered.after steps).InStep order) ∧
    (∀ order order', (ordered.after steps).Yields order → (unordered.after steps).Yields order' →
      order.Perm order') ∧
    (ordered.after steps).Yields (ordered.after steps).toList ∧
    (unordered.after steps).Yields (unordered.after steps).toList ∧
    ordered.run steps = unordered.run steps ∧
    (∀ st, ordered.run (steps ++ [st]) = ordered.run steps ++ [((ordered.after steps).step st).1]) ∧
    ∀ values : List α,
      let answer := values.all fun v => items.any (· == v)
      (∀ k : Kind, (hasAll (k.sequence (k.store items)).hasMember values).outcome = .ok answer) ∧
      (hasAll unordered.hasMember values).outcome = .ok answer ∧
      (hasAll ordered.hasMember values).outcome = .ok answer := by
  intro ordered unordered
  have fresh := Agree.ofList items
  obtain ⟨reports, tree, hash, treeLeft, hashLeft, agree⟩ := fresh.after steps
  have same_reports : ordered.run steps = unordered.run steps := reports
  have ordered_left : ordered.after steps = .ordered tree := treeLeft
  have unordered_left : unordered.after steps = .unordered hash := hashLeft
  rw [ordered_left, unordered_left]
  refine ⟨?_, ?_, ?_, SetSubject.yields_toList _, SetSubject.yields_toList _, same_reports, ?_, ?_⟩
  · rintro order rfl
    exact ⟨agree.inStep_ordered agree.same, agree.ascending⟩
  · intro order yields
    exact agree.inStep_unordered yields
  · rintro order order' rfl yields
    exact agree.same.trans (List.Perm.symm yields)
  · intro st
    rw [SetSubject.run_append, ordered_left]
    rfl
  · intro values answer
    refine ⟨?_, ?_, ?_⟩
    · intro k
      exact outcome_hasAll (k.outcome_hasMember items) values
    · refine outcome_hasAll ?_ values
      intro v
      exact congrArg Except.ok (UnorderedSet.contains_ofList items v)
    · refine outcome_hasAll ?_ values
      intro v
      exact congrArg Except.ok
        ((fresh.contains_eq v).trans (UnorderedSet.contains_ofList items v))

end Contents

/-- Numbers of which one comes twice; one is added, and one is taken out and asked for. -/
theorem sets_stay_in_step_repeated :
    let ordered : SetSubject Int64 := .ordered (.ofList [3, 1, 3])
    let unordered : SetSubject Int64 := .unordered (.ofList [3, 1, 3])
    let steps : List (SetStep Int64) := [.insert 2, .remove 3, .contains 3]
    (ordered.after steps).InStep [1, 2] ∧
      (unordered.after steps).InStep [1, 2] ∧
      unordered.run steps = [true, true, false].map (.ofAnswer <| .truth ·) ∧
      (hasAll ordered.hasMember [1, 3, 4]).outcome = .ok false := by
  intro ordered unordered steps
  obtain ⟨inOrder, anyOrder, -, -, -, reports, -, found⟩ := sets_stay_in_step [3, 1, 3] steps
  refine ⟨?_, ?_, ?_, ?_⟩
  · exact (inOrder [1, 2] rfl).1
  · exact anyOrder [1, 2] (.swap 2 1 [])
  · rw [← reports]
    rfl
  · exact (found [1, 3, 4]).2.2

end SequenceKit
