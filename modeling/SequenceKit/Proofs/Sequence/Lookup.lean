import Mathlib.Algebra.BigOperators.Group.Finset.Piecewise
import Mathlib.Order.Bounds.Basic
import SequenceKit.Element.AtMost
import SequenceKit.Proofs.Sequence.Counting

/-!
# What the default lookups answer

Membership and counting run over the cursor, position and index read by position.  That the two
ways agree is not a matter of course: elements are compared by a relation that need not be
reflexive, symmetric or transitive.  Both are measured here by one set.

* `places` — the positions at which a list holds an element that equals a value.
* `FirstOf` — an optional position that is the least of a set, or absent with the set empty.
* `firstMatch_first` — the search by position, over any reads that succeed.
* **`lookups_agree`** — on a well behaved sequence, all default lookups tell about `places`.
-/

namespace SequenceKit

variable {α : Type} [BEq α]

/-! ## The places of a value -/

/-- The positions at which the element equals the value, compared as `element == value`. -/
def places (contents : List α) (value : α) : Finset Nat :=
  (Finset.range contents.length).filter fun i => contents[i]?.any (· == value)

lemma mem_places {contents : List α} {value : α} {i : Nat} :
    i ∈ places contents value ↔ ∃ a, contents[i]? = some a ∧ (a == value) = true := by
  rw [places, Finset.mem_filter, Finset.mem_range, Option.any_eq_true]
  constructor
  · rintro ⟨-, a, stored, eq⟩
    exact ⟨a, stored, eq⟩
  · rintro ⟨a, stored, eq⟩
    exact ⟨(List.getElem?_eq_some_iff.mp stored).1, a, stored, eq⟩

lemma lt_length_of_mem_places {contents : List α} {value : α} {i : Nat}
    (h : i ∈ places contents value) : i < contents.length :=
  Finset.mem_range.mp (Finset.mem_filter.mp h).1

/-- A value has a place exactly if some element equals it. -/
lemma places_nonempty {contents : List α} {value : α} :
    (places contents value).Nonempty ↔ contents.any (· == value) = true := by
  rw [List.any_eq_true]
  constructor
  · rintro ⟨i, h⟩
    obtain ⟨a, stored, eq⟩ := mem_places.mp h
    exact ⟨a, List.mem_of_getElem? stored, eq⟩
  · rintro ⟨a, member, eq⟩
    obtain ⟨i, stored⟩ := List.getElem?_of_mem member
    exact ⟨i, mem_places.mpr ⟨a, stored, eq⟩⟩

/-- A value has as many places as there are elements that equal it. -/
lemma card_places (contents : List α) (value : α) :
    (places contents value).card = contents.countP (· == value) := by
  induction contents with
  | nil => rfl
  | cons a rest ih =>
      rw [places, Finset.card_filter] at ih ⊢
      rw [List.length_cons, Finset.sum_range_succ', List.countP_cons]
      simp only [List.getElem?_cons_succ, List.getElem?_cons_zero, Option.any_some]
      rw [ih]

/-! ## The search by position -/

/-- An optional position that is the least of a set; it is absent only if the set is empty. -/
def FirstOf (S : Set Nat) : Option Nat → Prop
  | none => S = ∅
  | some i => IsLeast S i

/-- The read at a position succeeds, with an element that equals the value. -/
def Hit (get : Nat → Traced α) (value : α) (i : Nat) : Prop :=
  ∃ a, (get i).outcome = .ok a ∧ (a == value) = true

/-- Over reads that succeed, the search ends with the first hit of its range. -/
lemma firstMatch_first (get : Nat → Traced α) (value : α) (count : Nat) : ∀ start : Nat,
    (∀ i, start ≤ i → i < start + count → ∃ a, (get i).outcome = .ok a) →
    ∃ place, (firstMatch get value start count).outcome = .ok place ∧
      FirstOf {i | start ≤ i ∧ i < start + count ∧ Hit get value i} place := by
  induction count with
  | zero =>
      intro start _
      refine ⟨none, rfl, Set.eq_empty_of_forall_notMem ?_⟩
      rintro i ⟨low, high, -⟩
      omega
  | succ count ih =>
      intro start reads
      obtain ⟨a, read⟩ := reads start (Nat.le_refl start) (by omega)
      rw [firstMatch, Traced.outcome_bind_of_ok read]
      by_cases eq : (a == value) = true
      · rw [if_pos eq]
        exact ⟨some start, rfl, ⟨Nat.le_refl start, by omega, a, read, eq⟩, fun i h => h.1⟩
      · rw [if_neg eq]
        obtain ⟨place, found, first⟩ :=
          ih (start + 1) fun i low high => reads i (by omega) (by omega)
        refine ⟨place, found, ?_⟩
        -- the position that was read is no hit, so the range loses nothing with it
        have missed : ¬ Hit get value start := by
          rintro ⟨b, read', eq'⟩
          rw [read] at read'
          cases read'
          exact eq eq'
        have same : {i | start ≤ i ∧ i < start + (count + 1) ∧ Hit get value i} =
            {i | start + 1 ≤ i ∧ i < start + 1 + count ∧ Hit get value i} := by
          ext i
          constructor
          · rintro ⟨low, high, hit⟩
            have ne : i ≠ start := fun h => missed (h ▸ hit)
            exact ⟨by omega, by omega, hit⟩
          · rintro ⟨low, high, hit⟩
            exact ⟨by omega, by omega, hit⟩
        rw [same]
        exact first

/-- There is a first position exactly if the set has a member. -/
lemma FirstOf.ne_none_iff {S : Set Nat} {place : Option Nat} (h : FirstOf S place) :
    place ≠ none ↔ S.Nonempty := by
  cases place with
  | none =>
      have empty : S = ∅ := h
      simp [empty]
  | some i => exact ⟨fun _ => ⟨i, h.1⟩, fun _ => Option.some_ne_none i⟩

/-- A position as an index lookup answers with it. -/
def asIndex (place : Option Nat) : Int :=
  place.elim (-1) fun i => (i : Int)

/-- The index -1 stands for no position and for nothing else. -/
lemma asIndex_ne_iff (place : Option Nat) : asIndex place ≠ -1 ↔ place ≠ none := by
  cases place <;> simp [asIndex]

/-- An index tells its position back. -/
lemma toNat?_asIndex (place : Option Nat) : (asIndex place).toNat? = place := by
  cases place <;> rfl

/-- The answer of an index lookup from a position that is not too large. -/
lemma outcome_signedIndex {place : Option Nat} (fits : ∀ i, place = some i → i ≤ maxIndex) :
    (signedIndex place).outcome = .ok (asIndex place) := by
  cases place with
  | none => rfl
  | some i =>
      rw [signedIndex, if_pos (fits i rfl)]
      rfl

/-! ## Well behaved sequences -/

namespace Access.Holds

variable {s : Access α} {contents : List α}

omit [BEq α] in
/-- Every read below the size succeeds. -/
lemma reads (h : s.Holds contents) {i : Nat} (lt : i < contents.length) :
    (s.get i).outcome = .ok contents[i] :=
  h.get (List.getElem?_eq_getElem lt)

/-- Below the size, hits are places. -/
lemma hit_iff (h : s.Holds contents) {value : α} {i : Nat} (lt : i < contents.length) :
    Hit s.get value i ↔ i ∈ places contents value := by
  rw [mem_places, Hit, List.getElem?_eq_getElem lt, h.reads lt]
  simp only [Except.ok.injEq, Option.some.injEq]

lemma outcome_contains (h : s.Holds contents) (value : α) :
    (s.contains value).outcome = .ok (contents.any (· == value)) := by
  obtain ⟨c, made, yields⟩ := h.iter
  rw [Access.contains, Traced.outcome_bind_of_ok made]
  exact yields.outcome_any _

lemma outcome_count (h : s.Holds contents) (value : α) :
    (s.count value).outcome = (Word.total (contents.countP (· == value))).outcome := by
  obtain ⟨c, made, yields⟩ := h.iter
  rw [Access.count, Traced.outcome_bind_of_ok made]
  exact yields.outcome_count _

lemma outcome_position (h : s.Holds contents) (value : α) :
    ∃ place, (s.position value).outcome = .ok place ∧
      FirstOf ↑(places contents value) place := by
  obtain ⟨place, found, first⟩ := firstMatch_first s.get value contents.length 0
    fun i _ lt => ⟨_, h.reads (by omega)⟩
  refine ⟨place, ?_, ?_⟩
  · rw [Access.position, Traced.outcome_bind_of_ok h.size, found]
  · have same : {i | 0 ≤ i ∧ i < 0 + contents.length ∧ Hit s.get value i} =
        ↑(places contents value) := by
      ext i
      constructor
      · rintro ⟨-, lt, hit⟩
        exact (h.hit_iff (by omega)).mp hit
      · intro mem
        have lt := lt_length_of_mem_places mem
        exact ⟨Nat.zero_le i, by omega, (h.hit_iff lt).mpr mem⟩
    rwa [same] at first

end Access.Holds

/-- **All default lookups agree with one meaning.**  On a well behaved sequence whose size an
index can express, and for any comparison of elements, the lookups answer as the places of the
value say: membership whether there is one, position and index which is the first, and count how
many there are. -/
theorem lookups_agree {s : Access α} {contents : List α} (holds : s.Holds contents)
    (fits : contents.length ≤ maxIndex) (value : α) :
    ∃ (found : Bool) (place : Option Nat) (signed : Int) (number : Nat),
      ((s.sequence.contains value).outcome = .ok found ∧
        (s.sequence.hasMember value).outcome = .ok found ∧
        (s.sequence.position value).outcome = .ok place ∧
        (s.sequence.index value).outcome = .ok signed ∧
        (s.sequence.count value).outcome = .ok number) ∧
      ((found = true ↔ ∃ a ∈ contents, (a == value) = true) ∧
        FirstOf ↑(places contents value) place ∧
        signed = asIndex place ∧
        number = (places contents value).card) ∧
      ((found = true ↔ signed ≠ -1) ∧
        (signed ≠ -1 ↔ 1 ≤ number) ∧
        (signed ≠ -1 → 0 ≤ signed ∧ signed < contents.length) ∧
        place = signed.toNat?) := by
  obtain ⟨place, answer, first⟩ := holds.outcome_position value
  -- a position is below the size, so that the index lookup does not overflow
  have below : ∀ i, place = some i → i < contents.length := by
    rintro i rfl
    exact lt_length_of_mem_places first.1
  have number : (s.count value).outcome = .ok (contents.countP (· == value)) := by
    have word : maxIndex ≤ Word.largest := by decide
    rw [holds.outcome_count,
      Word.total_of_le (List.countP_le_length.trans (fits.trans word)), Traced.outcome_pure]
  have some_iff : asIndex place ≠ -1 ↔ (places contents value).Nonempty :=
    (asIndex_ne_iff place).trans first.ne_none_iff
  refine ⟨contents.any (· == value), place, asIndex place, contents.countP (· == value),
    ⟨holds.outcome_contains value, holds.outcome_contains value, answer, ?_, number⟩,
    ⟨List.any_eq_true, first, rfl, (card_places contents value).symm⟩,
    ⟨places_nonempty.symm.trans some_iff.symm, ?_, ?_, (toNat?_asIndex place).symm⟩⟩
  · show (s.position value >>= signedIndex).outcome = _
    rw [Traced.outcome_bind_of_ok answer]
    exact outcome_signedIndex fun i is_place => (below i is_place).le.trans fits
  · rw [some_iff, ← card_places, Nat.one_le_iff_ne_zero, Finset.card_ne_zero]
  · intro ne
    obtain ⟨i, rfl⟩ := Option.ne_none_iff_exists'.mp ((asIndex_ne_iff place).mp ne)
    have lt := below i rfl
    show (0 : Int) ≤ i ∧ (i : Int) < contents.length
    omega

/-- A comparison that holds one way only: 1 counts as equal to 3, and 5 does not. -/
theorem lookups_agree_one_sided :
    let contents : List AtMost := [⟨5⟩, ⟨1⟩, ⟨1⟩]
    let s := (Storage.row contents.toArray).access
    s.Holds contents ∧ contents.length ≤ maxIndex ∧
      (s.sequence.contains ⟨3⟩).outcome = .ok true ∧
      (s.sequence.position ⟨3⟩).outcome = .ok (some 1) ∧
      (s.sequence.index ⟨3⟩).outcome = .ok 1 ∧
      (s.sequence.count ⟨3⟩).outcome = .ok 2 := by
  intro contents s
  have holds : s.Holds contents := Storage.holds (Storage.row contents.toArray)
  have fits : contents.length ≤ maxIndex := by decide
  obtain ⟨found, place, _, _, ⟨hasIt, -, at_, ix, many⟩, ⟨found_iff, first, rfl, rfl⟩, -⟩ :=
    lookups_agree holds fits (⟨3⟩ : AtMost)
  have here : places contents ⟨3⟩ = {1, 2} := by decide
  rw [here] at first many
  have least : IsLeast (↑({1, 2} : Finset Nat) : Set Nat) 1 := by simp [IsLeast, lowerBounds]
  have second : place = some 1 := by
    cases place with
    | none => exact absurd least.1 (first ▸ Set.notMem_empty 1)
    | some i => rw [first.unique least]
  have there : found = true := found_iff.mpr ⟨⟨1⟩, .tail _ (.head _), by decide⟩
  subst second there
  exact ⟨holds, fits, hasIt, at_, ix, many⟩

end SequenceKit
