import SequenceKit.Proofs.Sequence.Search

/-!
# All occurrences of a value

Someone who wants all positions of a value can ask for them one after the other, by the range
search alone: first in the whole sequence, then behind the position found last, and so on until a
search is answered with an error.  What is counted by one pass of the cursor is found here by
reads, so the two need not have anything to do with one another; on a well behaved sequence they
do.

* `Sequence.occurrencesUpTo` — the repeated search, with a bound on the number of searches.
* `exists_occurrences` — from any start it finds all hits behind, in order.
* **`repeated_search_enumerates`** — from the start it finds what the lookups tell.
-/

namespace SequenceKit

variable {α : Type} [BEq α]

/-- The positions of a value from `start` on, each found by a search behind the one before, and
the error that the last search was answered with.  At most `fuel` searches are made; if they are
too few, nothing is told. -/
def Sequence.occurrencesUpTo (s : Sequence α) (value : α) :
    (fuel start : Nat) → Traced (Option (List Nat × LookupError))
  | 0, _ => return none
  | fuel + 1, start => do
      match ← s.indexBetween value start (← s.size) with
      | .error e => return some ([], e)
      | .ok i =>
          return (← s.occurrencesUpTo value fuel (i + 1)).map fun (places, e) => (i :: places, e)

/-! ## First members -/

/-- Only one position can be the first. -/
lemma FirstOf.unique {S : Set Nat} {place place' : Option Nat} (h : FirstOf S place)
    (h' : FirstOf S place') : place = place' := by
  cases place with
  | none =>
      cases place' with
      | none => rfl
      | some i =>
          have empty : S = ∅ := h
          exact absurd h'.1 (empty ▸ Set.notMem_empty i)
  | some i =>
      cases place' with
      | none =>
          have empty : S = ∅ := h'
          exact absurd h.1 (empty ▸ Set.notMem_empty i)
      | some j => exact congrArg some (IsLeast.unique h h')

/-- The head of an ascending list is the first of its members. -/
lemma firstOf_head? {places : List Nat} (ascending : places.Pairwise (· < ·)) :
    FirstOf {i | i ∈ places} places.head? := by
  cases places with
  | nil => exact Set.eq_empty_of_forall_notMem fun _ member => nomatch member
  | cons i later =>
      refine ⟨List.mem_cons_self, ?_⟩
      rintro j (_ | ⟨_, member⟩)
      · exact le_rfl
      · exact (List.rel_of_pairwise_cons ascending member).le

/-! ## The repeated search -/

namespace Access.Holds

variable {s : Access α} {contents : List α}

/-- One search tells the first hit behind its start, or that there is none. -/
lemma search_rest (h : s.Holds contents) (value : α) {start : Nat}
    (within : start ≤ contents.length) :
    ∃ place, (s.sequence.indexBetween value start contents.length).outcome =
        .ok (orNotFound place) ∧
      FirstOf {i | start ≤ i ∧ i < contents.length ∧ Hit s.get value i} place := by
  obtain ⟨place, found, first⟩ :=
    firstMatch_first s.get value (contents.length - start) start fun i _ below =>
      ⟨_, h.reads (by omega)⟩
  rw [Nat.add_sub_cancel' within] at first
  refine ⟨place, ?_, first⟩
  show (s.indexBetween value start contents.length).outcome = _
  rw [Access.indexBetween_of_inside h.size value within le_rfl, Traced.outcome_after]
  exact Traced.outcome_map_of_ok found orNotFound

/-- One search more: either it finds nothing and is the last, or what it finds comes in front of
what the searches behind it find. -/
lemma outcome_occurrences_succ (h : s.Holds contents) {value : α} {start : Nat} {place : Option Nat}
    (found : (s.sequence.indexBetween value start contents.length).outcome = .ok (orNotFound place))
    (fuel : Nat) :
    (s.sequence.occurrencesUpTo value (fuel + 1) start).outcome =
      place.elim (.ok (some ([], .valueNotFound))) fun i =>
        (s.sequence.occurrencesUpTo value fuel (i + 1)).outcome.map fun later =>
          later.map fun (places, e) => (i :: places, e) := by
  have size : s.sequence.size.outcome = .ok contents.length := h.size
  rw [Sequence.occurrencesUpTo, Traced.outcome_bind_of_ok size, Traced.outcome_bind_of_ok found]
  cases place with
  | none => rfl
  | some i =>
      show (s.sequence.occurrencesUpTo value fuel (i + 1) >>= _).outcome = _
      rw [← map_eq_pure_bind, Traced.outcome_map]
      rfl

/-- From any start the repeated search finds the hits that lie behind, in ascending order, and then
that there are no more; it takes one search more than there are hits. -/
lemma exists_occurrences (h : s.Holds contents) (value : α) (start : Nat)
    (within : start ≤ contents.length) :
    ∃ places : List Nat, places.Pairwise (· < ·) ∧
      (∀ i, i ∈ places ↔ start ≤ i ∧ i < contents.length ∧ Hit s.get value i) ∧
      ∀ fuel, (s.sequence.occurrencesUpTo value fuel start).outcome =
        .ok (if places.length < fuel then some (places, .valueNotFound) else none) := by
  obtain ⟨place, found, first⟩ := h.search_rest value within
  cases place with
  | none =>
      have empty : {i | start ≤ i ∧ i < contents.length ∧ Hit s.get value i} = ∅ := first
      refine ⟨[], .nil, fun i => ?_, fun fuel => ?_⟩
      · exact iff_of_false List.not_mem_nil fun behind => (empty ▸ behind : i ∈ (∅ : Set Nat))
      · cases fuel with
        | zero => rfl
        | succ fuel =>
            rw [h.outcome_occurrences_succ found, List.length_nil, if_pos (Nat.zero_lt_succ fuel)]
            rfl
  | some i =>
      obtain ⟨⟨low, high, hit⟩, least⟩ := first
      -- the range behind a hit is shorter, also where the hit is the last element
      obtain ⟨later, ascending, members, ends⟩ := h.exists_occurrences value (i + 1) high
      refine ⟨i :: later, List.pairwise_cons.mpr ⟨?_, ascending⟩, fun j => ?_, fun fuel => ?_⟩
      · exact fun j member => ((members j).mp member).1
      · rw [List.mem_cons, members]
        constructor
        · rintro (rfl | ⟨behind, below, hit'⟩)
          · exact ⟨low, high, hit⟩
          · exact ⟨by omega, below, hit'⟩
        · rintro ⟨from_start, below, hit'⟩
          have le : i ≤ j := least ⟨from_start, below, hit'⟩
          rcases le.eq_or_lt with rfl | lt
          · exact .inl rfl
          · exact .inr ⟨lt, below, hit'⟩
      · cases fuel with
        | zero => rfl
        | succ fuel =>
            rw [h.outcome_occurrences_succ found, Option.elim_some, ends fuel, List.length_cons]
            by_cases enough : later.length < fuel
            · rw [if_pos enough, if_pos (Nat.succ_lt_succ enough)]
              rfl
            · rw [if_neg enough, if_neg fun more => enough (Nat.lt_of_succ_lt_succ more)]
              rfl
termination_by contents.length - start

end Access.Holds

/-- **Repeated range search enumerates what the lookups tell.**  On a well behaved sequence, and
for any comparison of elements, searching again and again behind the position found last comes to
an end, as soon as one search more is allowed than there are hits; the end is that the value is
not found, never that a range is refused.  The positions that it visits ascend strictly and are
just the positions with an element that equals the value.  Their number is the count of the value,
which is a word wherever the size is one, and the first of them is its position. -/
theorem repeated_search_enumerates {s : Access α} {contents : List α} (holds : s.Holds contents)
    (value : α) :
    ∃ places : List Nat,
      (∀ fuel, (s.sequence.occurrencesUpTo value fuel 0).outcome =
        .ok (if places.length < fuel then some (places, .valueNotFound) else none)) ∧
      places.Pairwise (· < ·) ∧
      (∀ i, i ∈ places ↔ i < contents.length ∧ Hit s.get value i) ∧
      (s.sequence.count value).outcome = (Word.total places.length).outcome ∧
      (s.sequence.position value).outcome = .ok places.head? := by
  obtain ⟨found, ascending, members, ends⟩ := holds.exists_occurrences value 0 (Nat.zero_le _)
  have hits (i : Nat) : i ∈ found ↔ i < contents.length ∧ Hit s.get value i := by
    rw [members, and_iff_right (Nat.zero_le i)]
  have same : (↑found.toFinset : Set Nat) = ↑(places contents value) := by
    ext i
    rw [Finset.mem_coe, Finset.mem_coe, List.mem_toFinset, hits]
    constructor
    · rintro ⟨below, hit⟩
      exact (holds.hit_iff below).mp hit
    · intro is_place
      have below := lt_length_of_mem_places is_place
      exact ⟨below, (holds.hit_iff below).mpr is_place⟩
  refine ⟨found, ends, ascending, hits, ?_, ?_⟩
  · have nodup : found.Nodup := ascending.imp Nat.ne_of_lt
    have number : contents.countP (· == value) = found.length := by
      rw [← card_places, ← Finset.coe_injective same, List.toFinset_card_of_nodup nodup]
    rw [← number]
    exact holds.outcome_count value
  · obtain ⟨place, answer, first⟩ := holds.outcome_position value
    have first' : FirstOf ↑(places contents value) found.head? := by
      rw [← same, List.coe_toFinset]
      exact firstOf_head? ascending
    rw [← first.unique first']
    exact answer

/-- Under a comparison that holds one way only, the value that is looked for equals no element that
equals it.  The last hit is the last element, so that the last search begins at the end. -/
theorem repeated_search_enumerates_one_sided :
    let contents : List AtMost := [⟨5⟩, ⟨1⟩, ⟨1⟩]
    let s := (Storage.row contents.toArray).access
    s.Holds contents ∧
      (s.sequence.occurrencesUpTo ⟨3⟩ 3 0).outcome = .ok (some ([1, 2], .valueNotFound)) ∧
      (s.sequence.count ⟨3⟩).outcome = .ok 2 ∧
      (s.sequence.position ⟨3⟩).outcome = .ok (some 1) := by
  intro contents s
  have holds : s.Holds contents := (Storage.row contents.toArray).holds
  obtain ⟨places, ends, -, -, count, position⟩ := repeated_search_enumerates holds ⟨3⟩
  have run : (s.sequence.occurrencesUpTo ⟨3⟩ 3 0).outcome = .ok (some ([1, 2], .valueNotFound)) :=
    rfl
  have is_list : places = [1, 2] := by
    rw [ends] at run
    split at run
    · cases run
      rfl
    · cases run
  subst is_list
  exact ⟨holds, run, count, position⟩

end SequenceKit
