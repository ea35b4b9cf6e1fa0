import SequenceKit.Instrumented.Probe
import SequenceKit.Proofs.Sequence.Faults
import SequenceKit.Proofs.Sequence.Lookup

/-!
# Searching by position

The position lookup and the range search read by position, one after the other, and stop at the
first hit.  Any of the reads may stop with a fault, and then the search stops with it.

**How a search ends.**  `SearchUpTo` says which of the positions of a range a search has asked for,
given how it has ended: all of them if nothing was found, otherwise those up to the hit or the
fault.  `firstMatch_upTo` shows it of every search, and that its marks are those of these reads and
no others, whatever the reads leave.

**Ranges put together.**  Searching a range is searching its first part and then, if that finds
nothing, the rest: `firstMatch_add` is an equation between computations.

**Refusals.**  A range search refuses a range that is reversed or too long before it reads
anything; every other range is searched as it stands.

* `Sequence.KeepsSearches` — a sequence with the default bodies of the two searches.
* **`range_search_composes`** — the answers of the range search, its calls, and how they compose.
-/

namespace SequenceKit

variable {α β : Type}

/-! ## Reads -/

/-- The position that is read at, if the mark is a read. -/
def Event.place? : Event → Option Nat
  | call (.get place) => some place
  | _ => none

/-- The positions that a computation reads at, in order. -/
def Traced.reads (x : Traced α) : List Nat :=
  x.trace.filterMap Event.place?

lemma Traced.reads_after (marks : List Event) (x : Traced α) :
    (x.after marks).reads = marks.filterMap Event.place? ++ x.reads :=
  List.filterMap_append

/-! ## How a search ends -/

section Search

variable [BEq α]

/-- The read at a position succeeds, with an element that does not equal the value. -/
def Miss (get : Nat → Traced α) (value : α) (i : Nat) : Prop :=
  ∃ a, (get i).outcome = .ok a ∧ (a == value) = false

/-- A search through the positions of a range, one after the other, which has asked for `places`.
If it has found nothing, these are all of the range, and each of them was a miss.  If it has found
a position, that is the last of them and the only hit.  If it has stopped with a fault, it is the
fault of the last of them, and the others were misses. -/
def SearchUpTo (get : Nat → Traced α) (value : α) (range places : List Nat) :
    Except Fault (Option Nat) → Prop
  | .ok none => places = range ∧ ∀ i ∈ range, Miss get value i
  | .ok (some i) => ∃ before rest, range = before ++ i :: rest ∧ places = before ++ [i] ∧
      (∀ j ∈ before, Miss get value j) ∧ Hit get value i
  | .error fault => ∃ before last rest, range = before ++ last :: rest ∧
      places = before ++ [last] ∧ (∀ j ∈ before, Miss get value j) ∧
      (get last).outcome = .error fault

lemma not_hit_of_miss {get : Nat → Traced α} {value : α} {i : Nat} (miss : Miss get value i) :
    ¬ Hit get value i := by
  rintro ⟨b, read', eq⟩
  obtain ⟨a, read, ne⟩ := miss
  cases Except.ok.inj (read.symm.trans read')
  exact Bool.false_ne_true (ne.symm.trans eq)

namespace SearchUpTo

variable {get : Nat → Traced α} {value : α} {range places : List Nat}

/-- One more miss in front. -/
lemma cons {start : Nat} {outcome : Except Fault (Option Nat)} (miss : Miss get value start)
    (h : SearchUpTo get value range places outcome) :
    SearchUpTo get value (start :: range) (start :: places) outcome := by
  have all {before : List Nat} (misses : ∀ j ∈ before, Miss get value j) :
      ∀ j ∈ start :: before, Miss get value j := by
    rintro j (_ | ⟨_, member⟩)
    · exact miss
    · exact misses j member
  match outcome, h with
  | .ok none, ⟨whole, misses⟩ => exact ⟨congrArg _ whole, all misses⟩
  | .ok (some i), ⟨before, rest, split, asked, misses, hit⟩ =>
      exact ⟨start :: before, rest, congrArg _ split, congrArg _ asked, all misses, hit⟩
  | .error fault, ⟨before, last, rest, split, asked, misses, stopped⟩ =>
      exact ⟨start :: before, last, rest, congrArg _ split, congrArg _ asked, all misses, stopped⟩

/-- In a range that ascends, what is found is the first hit. -/
lemma firstOf (ascending : range.Pairwise (· < ·)) {place : Option Nat}
    (h : SearchUpTo get value range places (.ok place)) :
    FirstOf {i | i ∈ range ∧ Hit get value i} place := by
  cases place with
  | none =>
      refine Set.eq_empty_of_forall_notMem ?_
      rintro i ⟨member, hit⟩
      exact not_hit_of_miss (h.2 i member) hit
  | some i =>
      obtain ⟨before, rest, rfl, -, misses, hit⟩ := h
      refine ⟨⟨by simp, hit⟩, ?_⟩
      rintro j ⟨member, hit'⟩
      -- in front of the hit there are misses only, and behind it larger positions
      rcases List.mem_append.mp member with earlier | later
      · exact absurd hit' (not_hit_of_miss (misses j earlier))
      · rcases List.mem_cons.mp later with rfl | behind
        · exact le_rfl
        · have above := (List.pairwise_append.mp ascending).2.1
          exact (List.rel_of_pairwise_cons above behind).le

/-- A search ends with a position or with none if no read that it makes stops with a fault. -/
lemma exists_found {outcome : Except Fault (Option Nat)}
    (h : SearchUpTo get value range places outcome)
    (succeed : ∀ i ∈ places, ∃ a, (get i).outcome = .ok a) : ∃ place, outcome = .ok place := by
  match outcome, h with
  | .ok place, _ => exact ⟨place, rfl⟩
  | .error fault, ⟨before, last, rest, _, asked, _, stopped⟩ =>
      obtain ⟨a, read⟩ := succeed last (by simp [asked])
      rw [stopped] at read
      cases read

end SearchUpTo

/-- Every search asks for positions up to its end and does nothing else: over any reads that come
to the same, it leaves just the marks of the reads that it makes. -/
lemma firstMatch_upTo (get : Nat → Traced α) (value : α) (count : Nat) : ∀ start : Nat,
    ∃ places, SearchUpTo get value (List.range' start count) places
        (firstMatch get value start count).outcome ∧
      ∀ marked : Nat → Traced α,
        (∀ i ∈ List.range' start count, (marked i).outcome = (get i).outcome) →
        firstMatch marked value start count =
          ⟨places.flatMap fun i => (marked i).trace,
            (firstMatch get value start count).outcome⟩ := by
  induction count with
  | zero => exact fun start => ⟨[], ⟨rfl, fun i member => nomatch member⟩, fun _ _ => rfl⟩
  | succ count ih =>
      intro start
      rw [List.range'_succ, firstMatch]
      have head {marked : Nat → Traced α}
          (same : ∀ i ∈ start :: List.range' (start + 1) count,
            (marked i).outcome = (get i).outcome) :
          (marked start).outcome = (get start).outcome := same start List.mem_cons_self
      cases read : (get start).outcome with
      | error fault =>
          rw [Traced.bind_eq_of_error read]
          refine ⟨[start], ⟨[], start, _, rfl, rfl, by simp, read⟩, fun marked same => ?_⟩
          rw [firstMatch, Traced.bind_eq_of_error ((head same).trans read), List.flatMap_singleton]
      | ok a =>
          rw [Traced.outcome_bind_of_ok read]
          cases eq : a == value with
          | true =>
              refine ⟨[start], ⟨[], _, rfl, rfl, by simp, a, read, eq⟩, fun marked same => ?_⟩
              rw [firstMatch, Traced.bind_eq_after ((head same).trans read), eq,
                List.flatMap_singleton]
              exact congrArg (Traced.mk · _) (List.append_nil _)
          | false =>
              obtain ⟨places, upTo, marks⟩ := ih (start + 1)
              refine ⟨start :: places, upTo.cons ⟨a, read, eq⟩, fun marked same => ?_⟩
              rw [firstMatch, Traced.bind_eq_after ((head same).trans read), eq,
                if_neg Bool.false_ne_true,
                marks marked fun i member => same i (List.mem_cons_of_mem _ member),
                List.flatMap_cons]
              rfl

/-- Searching a range is searching its first part and, if nothing is found there, the rest. -/
lemma firstMatch_add (get : Nat → Traced α) (value : α) (first second : Nat) : ∀ start : Nat,
    firstMatch get value start (first + second) =
      (firstMatch get value start first >>= fun
        | some i => pure (some i)
        | none => firstMatch get value (start + first) second) := by
  induction first with
  | zero =>
      intro start
      rw [Nat.zero_add, firstMatch, pure_bind, Nat.add_zero]
  | succ first ih =>
      intro start
      rw [Nat.succ_add, firstMatch, firstMatch, bind_assoc]
      congr 1
      funext a
      by_cases eq : (a == value) = true
      · rw [if_pos eq, if_pos eq, pure_bind]
      · rw [if_neg eq, if_neg eq, ih (start + 1), Nat.add_assoc start 1 first, Nat.add_comm 1 first]

end Search

/-! ## The two lookups -/

/-- A position as a range search answers with it. -/
def orNotFound (place : Option Nat) : Except LookupError Nat :=
  place.elim (.error .valueNotFound) .ok

section Lookups

variable [BEq α]

/-- Both searches have the default bodies; what the other methods do is left open. -/
structure Sequence.KeepsSearches (s : Sequence α) : Prop where
  position : s.position = s.toAccess.position
  indexBetween : s.indexBetween = s.toAccess.indexBetween

lemma Access.keepsSearches (s : Access α) : s.sequence.KeepsSearches :=
  ⟨rfl, rfl⟩

/-- A method that has its default body ends with the outcome, and over recorded primitives it
leaves these marks and no others. -/
def Sequence.Leaves (s : Sequence α) (method : Sequence α → Traced β) (marks : List Event)
    (outcome : Except Fault β) : Prop :=
  (method s).outcome = outcome ∧ method s.toAccess.recorded.sequence = ⟨marks, outcome⟩

/-- Searches a range up to `mid` and, only if the value is not found there, from `mid` on. -/
def Sequence.indexBetweenVia (s : Sequence α) (value : α) (start mid stop : Nat) :
    Traced (Except LookupError Nat) := do
  match ← s.indexBetween value start mid with
  | .error .valueNotFound => s.indexBetween value mid stop
  | answer => return answer

namespace Access

variable {s : Access α} {n start stop : Nat} (size : s.size.outcome = .ok n) (value : α)

include size

lemma position_eq : s.position value = (firstMatch s.get value 0 n).after s.size.trace :=
  Traced.bind_eq_after size _

/-- A range that is reversed or reaches past the end is refused, and nothing is read. -/
lemma indexBetween_of_outside (outside : stop < start ∨ n < stop) :
    s.indexBetween value start stop =
      ⟨s.size.trace ++ [.log (.rangeRejected start stop n)],
        .ok (.error (.invalidRange start stop n))⟩ := by
  have refused : (decide (start > stop) || decide (stop > n)) = true := by
    simpa only [Bool.or_eq_true, decide_eq_true_eq] using outside
  rw [indexBetween, Traced.bind_eq_after size, if_pos refused]
  rfl

/-- Every other range is searched. -/
lemma indexBetween_of_inside (ordered : start ≤ stop) (within : stop ≤ n) :
    s.indexBetween value start stop =
      (orNotFound <$> firstMatch s.get value start (stop - start)).after s.size.trace := by
  have admitted : ¬ (decide (start > stop) || decide (stop > n)) = true := by
    simp only [Bool.or_eq_true, decide_eq_true_eq]
    omega
  rw [indexBetween, Traced.bind_eq_after size, if_neg admitted, map_eq_pure_bind]
  refine congrArg (Traced.after s.size.trace) (bind_congr fun place => ?_)
  cases place <;> rfl

/-- The whole range holds what the position lookup finds. -/
lemma indexBetween_whole :
    s.indexBetween value 0 n = orNotFound <$> s.position value := by
  rw [indexBetween_of_inside size value (Nat.zero_le n) le_rfl, position_eq size, Traced.map_after,
    Nat.sub_zero]

end Access

/-- Over recorded reads a search leaves these reads as its only marks. -/
lemma Access.firstMatch_recorded (s : Access α) (value : α) (start count : Nat) :
    ∃ places, SearchUpTo s.get value (List.range' start count) places
        (firstMatch s.get value start count).outcome ∧
      firstMatch s.recorded.get value start count =
        ⟨readsAt places, (firstMatch s.get value start count).outcome⟩ := by
  obtain ⟨places, upTo, marks⟩ := firstMatch_upTo s.get value count start
  refine ⟨places, upTo, ?_⟩
  rw [marks s.recorded.get fun _ _ => rfl, readsAt, List.map_eq_flatMap]
  rfl

namespace Sequence.KeepsSearches

variable {s : Sequence α} (keeps : s.KeepsSearches) {n : Nat} (size : s.size.outcome = .ok n)
  (value : α)

include keeps size

/-- The position lookup asks for the size and searches all positions below it. -/
lemma leaves_position : ∃ (places : List Nat) (found : Except Fault (Option Nat)),
    s.Leaves (·.position value) (.call .size :: readsAt places) found ∧
      SearchUpTo s.get value (List.range n) places found := by
  have watchedSize : s.toAccess.recorded.size.outcome = .ok n := size
  obtain ⟨places, upTo, marks⟩ := s.toAccess.firstMatch_recorded value 0 n
  rw [← List.range_eq_range'] at upTo
  refine ⟨places, _, ⟨?_, ?_⟩, upTo⟩
  · dsimp only
    rw [keeps.position, Access.position_eq size, Traced.outcome_after]
  · show s.toAccess.recorded.position value = _
    rw [Access.position_eq watchedSize, marks]
    rfl

/-- A range that lies below the size is searched. -/
lemma leaves_indexBetween {start stop : Nat} (ordered : start ≤ stop) (within : stop ≤ n) :
    ∃ (places : List Nat) (found : Except Fault (Option Nat)),
      s.Leaves (·.indexBetween value start stop) (.call .size :: readsAt places)
          (found.map orNotFound) ∧
        SearchUpTo s.get value (List.range' start (stop - start)) places found := by
  have watchedSize : s.toAccess.recorded.size.outcome = .ok n := size
  obtain ⟨places, upTo, marks⟩ := s.toAccess.firstMatch_recorded value start (stop - start)
  refine ⟨places, _, ⟨?_, ?_⟩, upTo⟩
  · dsimp only
    rw [keeps.indexBetween, Access.indexBetween_of_inside size value ordered within,
      Traced.outcome_after, Traced.outcome_map]
  · show s.toAccess.recorded.indexBetween value start stop = _
    rw [Access.indexBetween_of_inside watchedSize value ordered within, marks, Traced.map_mk]
    rfl

/-- Every other range is refused. -/
lemma leaves_refusal {start stop : Nat} (outside : stop < start ∨ n < stop) :
    s.Leaves (·.indexBetween value start stop)
      [.call .size, .log (.rangeRejected start stop n)]
      (.ok (.error (.invalidRange start stop n))) := by
  have watchedSize : s.toAccess.recorded.size.outcome = .ok n := size
  constructor
  · dsimp only
    rw [keeps.indexBetween, Access.indexBetween_of_outside size value outside]
  · exact Access.indexBetween_of_outside watchedSize value outside

end Sequence.KeepsSearches

/-- Split at any position, a range search ends as before; and it makes the same reads if asking for
the size again makes none. -/
lemma Sequence.KeepsSearches.split {s : Sequence α} (keeps : s.KeepsSearches) {n : Nat}
    (size : s.size.outcome = .ok n) (value : α) {start mid stop : Nat} (before : start ≤ mid)
    (behind : mid ≤ stop) (within : stop ≤ n) :
    (s.indexBetween value start stop).outcome = (s.indexBetweenVia value start mid stop).outcome ∧
      (s.size.reads = [] → (s.indexBetween value start stop).reads =
        (s.indexBetweenVia value start mid stop).reads) := by
  let first := firstMatch s.get value start (mid - start)
  let second := firstMatch s.get value mid (stop - mid)
  have whole : s.indexBetween value start stop = (first >>= fun
      | some i => pure (.ok i)
      | none => orNotFound <$> second).after s.size.trace := by
    rw [keeps.indexBetween,
      Access.indexBetween_of_inside size value (before.trans behind) within,
      show stop - start = mid - start + (stop - mid) by omega, firstMatch_add,
      Nat.add_sub_cancel' before, map_bind]
    refine congrArg (Traced.after s.size.trace) (bind_congr fun place => ?_)
    cases place <;> rfl
  have one : s.indexBetween value start mid =
      (first >>= fun place => pure (orNotFound place)).after s.size.trace := by
    rw [keeps.indexBetween, Access.indexBetween_of_inside size value before (behind.trans within),
      map_eq_pure_bind]
  have other : s.indexBetween value mid stop = (orNotFound <$> second).after s.size.trace := by
    rw [keeps.indexBetween, Access.indexBetween_of_inside size value behind within]
  rw [indexBetweenVia, whole, one, other]
  -- whether the second part is searched depends on how the search of the first part has ended
  cases found : first.outcome with
  | error fault =>
      rw [Traced.bind_eq_of_error found, Traced.bind_eq_of_error found]
      exact ⟨rfl, fun _ => rfl⟩
  | ok place =>
      rw [Traced.bind_eq_after found, Traced.bind_eq_after found, Traced.after_after,
        Traced.after_after, Traced.bind_eq_after (Traced.outcome_after _ (pure (orNotFound place))),
        Traced.trace_after_pure]
      cases place with
      | some i => exact ⟨rfl, fun _ => rfl⟩
      | none =>
          refine ⟨rfl, fun silent => ?_⟩
          have again : s.size.trace.filterMap Event.place? = [] := silent
          show _ = (((orNotFound <$> second).after s.size.trace).after _).reads
          rw [Traced.reads_after, Traced.reads_after, Traced.reads_after, again, List.nil_append]

/-- **The range search is complete and composes.**  Let a sequence keep the default bodies of the
two searches by position, whatever else it overrides; let its size be `n`, and let its reads come
to anything, at any position.

* A range is refused exactly if it is reversed or reaches past `n`.  Then the size is asked for,
  one line is logged, and nothing is read.
* Every other range is searched: after the size the positions of the range are asked for, up to
  the end of the search, and nothing is logged.  If none of these reads stops with a fault, the
  answer is the first hit of the range, or that there is none.
* A range may be searched in two parts, the second only if the value is not found in the first:
  value, refusal or fault are the same, and so are the reads, in the same order.
* The search of the whole range is the position lookup. -/
theorem range_search_composes {s : Sequence α} (keeps : s.KeepsSearches) {n : Nat}
    (size : s.size.outcome = .ok n) (value : α) (start stop : Nat) :
    let watched := s.toAccess.recorded.sequence
    ((s.indexBetween value start stop).outcome = .ok (.error (.invalidRange start stop n)) ↔
        stop < start ∨ n < stop) ∧
    (stop < start ∨ n < stop → s.Leaves (·.indexBetween value start stop)
        [.call .size, .log (.rangeRejected start stop n)]
        (.ok (.error (.invalidRange start stop n)))) ∧
    (start ≤ stop → stop ≤ n → ∃ (places : List Nat) (found : Except Fault (Option Nat)),
        s.Leaves (·.indexBetween value start stop) (.call .size :: readsAt places)
          (found.map orNotFound) ∧
        SearchUpTo s.get value (List.range' start (stop - start)) places found ∧
        ((∀ i ∈ places, ∃ a, (s.get i).outcome = .ok a) → ∃ place, found = .ok place ∧
          FirstOf {i | start ≤ i ∧ i < stop ∧ Hit s.get value i} place)) ∧
    (∀ mid, start ≤ mid → mid ≤ stop → stop ≤ n →
        (s.indexBetween value start stop).outcome =
            (s.indexBetweenVia value start mid stop).outcome ∧
          (watched.indexBetween value start stop).reads =
            (watched.indexBetweenVia value start mid stop).reads) ∧
    ((s.indexBetween value 0 n).outcome = (s.position value).outcome.map orNotFound ∧
      watched.indexBetween value 0 n = orNotFound <$> watched.position value) := by
  intro watched
  have watchedSize : watched.size.outcome = .ok n := size
  have watchedKeeps : watched.KeepsSearches := s.toAccess.recorded.keepsSearches
  refine ⟨⟨fun answer => ?_, fun outside => (keeps.leaves_refusal size value outside).1⟩,
    fun outside => keeps.leaves_refusal size value outside, ?_, ?_, ?_⟩
  · by_contra inside
    rw [not_or, not_lt, not_lt] at inside
    obtain ⟨places, found, leaves, -⟩ := keeps.leaves_indexBetween size value inside.1 inside.2
    have ended := leaves.1.symm.trans answer
    match found, ended with
    | .ok none, ended => cases ended
    | .ok (some i), ended => cases ended
    | .error fault, ended => cases ended
  · intro ordered within
    obtain ⟨places, found, leaves, upTo⟩ := keeps.leaves_indexBetween size value ordered within
    refine ⟨places, found, leaves, upTo, fun succeed => ?_⟩
    obtain ⟨place, rfl⟩ := upTo.exists_found succeed
    have first := upTo.firstOf List.pairwise_lt_range'
    have same : {i | i ∈ List.range' start (stop - start) ∧ Hit s.get value i} =
        {i | start ≤ i ∧ i < stop ∧ Hit s.get value i} := by
      ext i
      show i ∈ List.range' start (stop - start) ∧ _ ↔ start ≤ i ∧ i < stop ∧ _
      rw [List.mem_range'_1, Nat.add_sub_cancel' ordered, and_assoc]
    exact ⟨place, rfl, same ▸ first⟩
  · intro mid before behind within
    exact ⟨(keeps.split size value before behind within).1,
      (watchedKeeps.split watchedSize value before behind within).2 rfl⟩
  · constructor
    · rw [keeps.indexBetween, Access.indexBetween_whole size, Traced.outcome_map, ← keeps.position]
    · exact Access.indexBetween_whole watchedSize value

end Lookups

/-- A sequence that claims five elements and has three, with a membership lookup of its own. -/
def overstated : Sequence Nat :=
  { (Probe.mk 5 #[4, 7, 4]).sequence with contains := fun _ => pure true }

/-- Searched up to its end it stops behind its elements, in two parts as in one; and a range that
ends before it begins is refused. -/
theorem range_search_composes_overstated :
    overstated.KeepsSearches ∧ overstated.size.outcome = .ok 5 ∧
      (overstated.indexBetweenVia 9 1 2 5).outcome = .error (.indexOutOfBounds 3 3) ∧
      overstated.Leaves (·.indexBetween 9 4 3) [.call .size, .log (.rangeRejected 4 3 5)]
        (.ok (.error (.invalidRange 4 3 5))) := by
  have keeps : overstated.KeepsSearches := ⟨rfl, rfl⟩
  have size : overstated.size.outcome = .ok 5 := rfl
  obtain ⟨-, -, -, splits, -⟩ := range_search_composes keeps size 9 1 5
  obtain ⟨-, refused, -⟩ := range_search_composes keeps size 9 4 3
  have stopped : (overstated.indexBetween 9 1 5).outcome = .error (.indexOutOfBounds 3 3) := rfl
  have split := (splits 2 (by decide) (by decide) le_rfl).1
  exact ⟨keeps, size, split.symm.trans stopped, refused (.inl (by decide))⟩

end SequenceKit
