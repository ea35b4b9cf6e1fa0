import SequenceKit.Instrumented.Probe
import SequenceKit.Proofs.Sequence.Calls
import SequenceKit.Proofs.Sequence.Counting
import SequenceKit.Proofs.Sequence.Search
import SequenceKit.Proofs.Sequence.SignedIndex

/-!
# What a lookup asks for

A default lookup could ask for more than it needs and still answer rightly: one lookup could be
worked out from another, the size could be asked for twice, or a read be made behind the first
hit.  On a sequence in which size, cursor and reads have nothing to do with one another this would
show, in the calls and then also in the answers.

**Over the cursor.**  Membership and counting make one cursor.  Membership advances it up to the
first hit, counting to its end or to the hit that no word can count any more.

**By position.**  Position, index and range search ask for the size and then read, position after
position, up to the end of the search; a range that is refused is not searched.

**Dependence.**  What a lookup does not ask for cannot change its answer.  So two sequences that
agree in what a lookup asks for are alike to it, whatever else they are.

* `Access.RunsOver` — the elements of the cursor, whatever the size and the reads are.
* `Access.Alike` — a lookup cannot tell two sequences apart.
* **`lookups_ask_as_needed`** — the calls of each lookup, and what it depends on.
-/

namespace SequenceKit

variable {α β γ : Type}

/-! ## Passes of the cursor -/

namespace Cursor.Yields

variable {c : Cursor α} {as : List α}

/-- A pass for the first hit advances to it and no further; without a hit it finds the end. -/
lemma any_recorded (h : c.Yields as) (p : α → Bool) :
    c.recorded.any p = ⟨List.replicate (as.findIdx p + 1) (.call .next), .ok (as.any p)⟩ := by
  induction h with
  | done marks => rfl
  | yield marks a later ih =>
      rw [Cursor.recorded, Cursor.any, List.any_cons, List.findIdx_cons]
      cases hit : p a with
      | true => rfl
      | false =>
          rw [if_neg Bool.false_ne_true, ih, Bool.false_or]
          rfl

/-- The advances of a recorded cursor leave nothing but their records. -/
lemma recorded_eq (h : c.Yields as) : c.recorded = Cursor.ofList [.call .next] as := by
  induction h with
  | done marks => rfl
  | yield marks a later ih => rw [Cursor.recorded, ih, Cursor.ofList]

end Cursor.Yields

namespace Access

/-- The cursor runs over these elements.  Nothing is said about size and reads. -/
def RunsOver (s : Access α) (elements : List α) : Prop :=
  ∃ c, s.iter.outcome = .ok c ∧ c.Yields elements

/-- A method ends alike on two sequences that have default bodies, after the same calls. -/
def Alike [BEq α] (s s' : Access α) (method : Sequence α → Traced β) : Prop :=
  (method s.sequence).outcome = (method s'.sequence).outcome ∧
    method s.recorded.sequence = method s'.recorded.sequence

lemma alike_of_leaves [BEq α] {s s' : Access α} {method : Sequence α → Traced β}
    {marks : List Event} {outcome : Except Fault β}
    (leaves : s.sequence.Leaves method marks outcome)
    (leaves' : s'.sequence.Leaves method marks outcome) : s.Alike s' method :=
  ⟨leaves.1.trans leaves'.1.symm, leaves.2.trans leaves'.2.symm⟩

/-! ## Lookups over the cursor -/

namespace RunsOver

variable {s : Access α} {elements : List α} (h : s.RunsOver elements)

include h

/-- What is done with the cursor ends as it does over these elements, and leaves its marks behind
the one call that makes the cursor. -/
lemma leaves_over_cursor {consume : Cursor α → Traced β} {marks : List Event}
    {outcome : Except Fault β}
    (answer : ∀ {c : Cursor α}, c.Yields elements → (consume c).outcome = outcome)
    (recorded : ∀ {c : Cursor α}, c.Yields elements → consume c.recorded = ⟨marks, outcome⟩) :
    (s.iter >>= consume).outcome = outcome ∧
      s.recorded.iter >>= consume = ⟨.call .iter :: marks, outcome⟩ := by
  obtain ⟨c, made, yields⟩ := h
  have made' : s.recorded.iter.outcome = .ok c.recorded := Traced.outcome_map_of_ok made _
  constructor
  · rw [Traced.outcome_bind_of_ok made, answer yields]
  · rw [Traced.bind_eq_after made', recorded yields]
    rfl

variable [BEq α] (value : α)

lemma leaves_contains :
    s.sequence.Leaves (·.contains value)
      (.call .iter :: List.replicate (elements.findIdx (· == value) + 1) (.call .next))
      (.ok (elements.any (· == value))) :=
  h.leaves_over_cursor (fun yields => yields.outcome_any (· == value))
    fun yields => yields.any_recorded (· == value)

/-- Counting goes to the end, if a word can tell the number. -/
lemma leaves_count (fits : elements.countP (· == value) ≤ Word.largest) :
    s.sequence.Leaves (·.count value)
      (.call .iter :: List.replicate (elements.length + 1) (.call .next))
      (.ok (elements.countP (· == value))) := by
  refine h.leaves_over_cursor (fun yields => ?_) fun yields => ?_
  · rw [yields.outcome_count, Word.total_of_le fits, Traced.outcome_pure]
  · rw [yields.recorded_eq, Cursor.count_ofList _ _ fits]

/-- Otherwise it goes to the first hit that is one too many. -/
lemma leaves_count_overflowing {before later : List α} {hit : α}
    (split : elements = before ++ hit :: later)
    (full : before.countP (· == value) = Word.largest) (equal : (hit == value) = true) :
    s.sequence.Leaves (·.count value)
      (.call .iter :: List.replicate (before.length + 1) (.call .next)) (.error .addOverflow) := by
  have large : Word.largest < elements.countP (· == value) := by
    have here : 0 < (hit :: later).countP (· == value) :=
      List.countP_pos_iff.mpr ⟨hit, List.mem_cons_self, equal⟩
    rw [split, List.countP_append, full]
    exact Nat.lt_add_of_pos_right here
  refine h.leaves_over_cursor (fun yields => ?_) fun yields => ?_
  · rw [yields.outcome_count, Word.total_of_gt large]
    rfl
  · rw [yields.recorded_eq, split]
    exact Cursor.count_ofList_overflowing _ (· == value) equal later full

lemma exists_leaves_count (large : Word.largest < elements.countP (· == value)) :
    ∃ before hit later, elements = before ++ hit :: later ∧
      before.countP (· == value) = Word.largest ∧ (hit == value) = true ∧
      s.sequence.Leaves (·.count value)
        (.call .iter :: List.replicate (before.length + 1) (.call .next))
        (.error .addOverflow) := by
  obtain ⟨before, hit, later, split, full, equal⟩ := exists_overflowing large
  exact ⟨before, hit, later, split, full, equal, h.leaves_count_overflowing value split full equal⟩

/-- The elements decide how counting ends. -/
lemma alike_count {s' : Access α} (h' : s'.RunsOver elements) : s.Alike s' (·.count value) := by
  by_cases fits : elements.countP (· == value) ≤ Word.largest
  · exact alike_of_leaves (h.leaves_count value fits) (h'.leaves_count value fits)
  · obtain ⟨before, hit, later, split, full, equal, leaves⟩ :=
      h.exists_leaves_count value (Nat.lt_of_not_le fits)
    exact alike_of_leaves leaves (h'.leaves_count_overflowing value split full equal)

end RunsOver

end Access

/-! ## Lookups by position -/

section ByPosition

variable [BEq α] {s s' : Access α} {n : Nat}

/-- The index lookup makes the calls of the position lookup. -/
lemma Sequence.Leaves.index {marks : List Event} {found : Except Fault (Option Nat)} {value : α}
    (leaves : s.sequence.Leaves (·.position value) marks found) :
    s.sequence.Leaves (·.index value) marks
      (found.bind fun place => (signedIndex place).outcome) := by
  obtain ⟨ended, recorded⟩ := leaves
  dsimp only at ended recorded
  constructor
  · show (s.sequence.position value >>= signedIndex).outcome = _
    rw [bind_signedIndex, ended]
  · show s.recorded.sequence.position value >>= signedIndex = _
    rw [bind_signedIndex, show s.recorded.sequence.position value = _ from recorded]

/-- The size is the same, and so is what the reads below it come to. -/
structure Access.AgreeBelow (s s' : Access α) (n : Nat) : Prop where
  size : s.size.outcome = .ok n
  size' : s'.size.outcome = .ok n
  get : ∀ i < n, (s'.get i).outcome = (s.get i).outcome

namespace Access.AgreeBelow

variable (agree : s.AgreeBelow s' n) (value : α)

include agree

lemma firstMatch_eq {start count : Nat} (within : start + count ≤ n) :
    (firstMatch s.get value start count).outcome = (firstMatch s'.get value start count).outcome ∧
      firstMatch s.recorded.get value start count =
        firstMatch s'.recorded.get value start count := by
  have same : ∀ i ∈ List.range' start count, (s'.get i).outcome = (s.get i).outcome := by
    intro i member
    rw [List.mem_range'_1] at member
    exact agree.get i (by omega)
  -- where the reads come to the same, the marks of a search are those of the same reads
  obtain ⟨places, -, marks⟩ := firstMatch_upTo s.get value count start
  constructor
  · rw [marks s'.get same]
  · rw [marks s.recorded.get fun _ _ => rfl, marks s'.recorded.get same]
    rfl

lemma alike_position : s.Alike s' (·.position value) := by
  have recordedSize : s.recorded.size.outcome = .ok n := agree.size
  have recordedSize' : s'.recorded.size.outcome = .ok n := agree.size'
  obtain ⟨ended, calls⟩ := agree.firstMatch_eq value (Nat.zero_add n).le
  constructor
  · show (s.position value).outcome = (s'.position value).outcome
    rw [position_eq agree.size, position_eq agree.size', Traced.outcome_after,
      Traced.outcome_after, ended]
  · show s.recorded.position value = s'.recorded.position value
    rw [position_eq recordedSize, position_eq recordedSize', calls]
    rfl

lemma alike_index : s.Alike s' (·.index value) := by
  obtain ⟨ended, calls⟩ := agree.alike_position value
  dsimp only at ended
  constructor
  · show (s.sequence.position value >>= signedIndex).outcome =
      (s'.sequence.position value >>= signedIndex).outcome
    rw [bind_signedIndex, bind_signedIndex, ended]
  · exact congrArg (· >>= signedIndex) calls

lemma alike_indexBetween (start stop : Nat) : s.Alike s' (·.indexBetween value start stop) := by
  by_cases outside : stop < start ∨ n < stop
  · exact alike_of_leaves (s.keepsSearches.leaves_refusal agree.size value outside)
      (s'.keepsSearches.leaves_refusal agree.size' value outside)
  · rw [not_or, not_lt, not_lt] at outside
    obtain ⟨ordered, within⟩ := outside
    have recordedSize : s.recorded.size.outcome = .ok n := agree.size
    have recordedSize' : s'.recorded.size.outcome = .ok n := agree.size'
    obtain ⟨ended, calls⟩ := agree.firstMatch_eq value
      ((Nat.add_sub_cancel' ordered).trans_le within)
    constructor
    · show (s.indexBetween value start stop).outcome = (s'.indexBetween value start stop).outcome
      rw [indexBetween_of_inside agree.size value ordered within,
        indexBetween_of_inside agree.size' value ordered within, Traced.outcome_after,
        Traced.outcome_after, Traced.outcome_map, Traced.outcome_map, ended]
    · show s.recorded.indexBetween value start stop = s'.recorded.indexBetween value start stop
      rw [indexBetween_of_inside recordedSize value ordered within,
        indexBetween_of_inside recordedSize' value ordered within, calls]
      rfl

end Access.AgreeBelow

end ByPosition

/-- **Each default lookup asks for what it needs.**  Nothing is asked of how size, cursor and reads
fit together.

If the cursor runs over given elements, then membership makes one cursor and advances it up to the
first of them that equals the value, or behind the last if there is none; counting makes one cursor
and advances it behind the last, or, if more of them equal the value than a word can tell, up to
the first that is one too many.  They do nothing else, so they are alike on every other sequence
with a cursor over these elements.

If the size is `n`, then position and index ask for it once and read at 0, 1, and so on, up to the
end of the search; so does the range search, from the start of its range on, unless it refuses the
range.  They do nothing else, so they are alike on every other sequence of this size whose reads
below it come to the same. -/
theorem lookups_ask_as_needed [BEq α] (s : Access α) (value : α) :
    (∀ elements, s.RunsOver elements →
      s.sequence.Leaves (·.contains value)
        (.call .iter :: List.replicate (elements.findIdx (· == value) + 1) (.call .next))
        (.ok (elements.any (· == value))) ∧
      (elements.countP (· == value) ≤ Word.largest →
        s.sequence.Leaves (·.count value)
          (.call .iter :: List.replicate (elements.length + 1) (.call .next))
          (.ok (elements.countP (· == value)))) ∧
      (Word.largest < elements.countP (· == value) →
        ∃ before hit later, elements = before ++ hit :: later ∧
          before.countP (· == value) = Word.largest ∧ (hit == value) = true ∧
          s.sequence.Leaves (·.count value)
            (.call .iter :: List.replicate (before.length + 1) (.call .next))
            (.error .addOverflow)) ∧
      ∀ s' : Access α, s'.RunsOver elements →
        s.Alike s' (·.contains value) ∧ s.Alike s' (·.count value)) ∧
    (∀ n, s.size.outcome = .ok n →
      (∃ (places : List Nat) (found : Except Fault (Option Nat)),
        s.sequence.Leaves (·.position value) (.call .size :: readsAt places) found ∧
        s.sequence.Leaves (·.index value) (.call .size :: readsAt places)
          (found.bind fun place => (signedIndex place).outcome) ∧
        SearchUpTo s.get value (List.range n) places found) ∧
      (∀ start stop, start ≤ stop → stop ≤ n →
        ∃ (places : List Nat) (found : Except Fault (Option Nat)),
          s.sequence.Leaves (·.indexBetween value start stop) (.call .size :: readsAt places)
            (found.map orNotFound) ∧
          SearchUpTo s.get value (List.range' start (stop - start)) places found) ∧
      (∀ start stop, stop < start ∨ n < stop →
        s.sequence.Leaves (·.indexBetween value start stop)
          [.call .size, .log (.rangeRejected start stop n)]
          (.ok (.error (.invalidRange start stop n)))) ∧
      ∀ s' : Access α, s.AgreeBelow s' n →
        s.Alike s' (·.position value) ∧ s.Alike s' (·.index value) ∧
          ∀ start stop, s.Alike s' (·.indexBetween value start stop)) := by
  refine ⟨fun elements runs => ⟨runs.leaves_contains value, runs.leaves_count value,
      runs.exists_leaves_count value, ?_⟩,
    fun n size => ⟨?_, ?_, ?_, ?_⟩⟩
  · intro s' runs'
    exact ⟨Access.alike_of_leaves (runs.leaves_contains value) (runs'.leaves_contains value),
      runs.alike_count value runs'⟩
  · obtain ⟨places, found, leaves, upTo⟩ := s.keepsSearches.leaves_position size value
    exact ⟨places, found, leaves, leaves.index, upTo⟩
  · intro start stop ordered within
    exact s.keepsSearches.leaves_indexBetween size value ordered within
  · intro start stop outside
    exact s.keepsSearches.leaves_refusal size value outside
  · intro s' agree
    exact ⟨agree.alike_position value, agree.alike_index value, agree.alike_indexBetween value⟩

/-- A sequence that claims five elements and has three.  Its cursor finds the last of them at the
third advance.  A value that is missing is searched for up to the read that stops with a fault, and
this is the same without a cursor. -/
theorem lookups_ask_as_needed_overstated :
    let s := (Probe.mk 5 #[4, 8, 7]).access
    let bare := { s with iter := pure (.done []) }
    s.RunsOver [4, 8, 7] ∧ s.size.outcome = .ok 5 ∧ s.AgreeBelow bare 5 ∧
      s.sequence.Leaves (·.contains 7) [.call .iter, .call .next, .call .next, .call .next]
        (.ok true) ∧
      s.sequence.Leaves (·.index 9) (.call .size :: readsAt [0, 1, 2, 3])
        (.error (.indexOutOfBounds 3 3)) ∧
      s.Alike bare (·.index 9) := by
  intro s bare
  have runs : s.RunsOver [4, 8, 7] := ⟨_, rfl, Cursor.yields_ofList _ _⟩
  have size : s.size.outcome = .ok 5 := rfl
  have agree : s.AgreeBelow bare 5 := ⟨rfl, rfl, fun _ _ => rfl⟩
  obtain ⟨over_cursor, -⟩ := lookups_ask_as_needed s 7
  obtain ⟨-, by_position⟩ := lookups_ask_as_needed s 9
  obtain ⟨-, -, -, alike⟩ := by_position 5 size
  exact ⟨runs, size, agree, (over_cursor _ runs).1, ⟨rfl, rfl⟩, (alike bare agree).2.1⟩

/-- A method that leaves a number of equal marks does not leave one more. -/
lemma Sequence.Leaves.not_longer [BEq α] {s : Sequence α} {method : Sequence α → Traced β}
    {first e : Event} {n : Nat} {outcome : Except Fault β}
    (leaves : s.Leaves method (first :: List.replicate n e) outcome) :
    ¬ ∃ other, s.Leaves method (first :: List.replicate (n + 1) e) other := by
  rintro ⟨other, leaves'⟩
  have same := congrArg (List.length ∘ Traced.trace) (leaves.2.symm.trans leaves'.2)
  simp only [Function.comp_apply, List.length_cons, List.length_replicate] at same
  omega

/-- Counting does not always reach the end of the cursor: over the crowd it makes one advance less
than there would be.  And a range search does not always read at the start of its range: of three
elements none is read if the range ends at 9, although the first of them equals the value. -/
theorem lookups_cut_short :
    (crowd.RunsOver sevens ∧
      crowd.sequence.Leaves (·.count 7)
        (.call .iter :: List.replicate sevens.length (.call .next)) (.error .addOverflow) ∧
      ¬ ∃ outcome, crowd.sequence.Leaves (·.count 7)
        (.call .iter :: List.replicate (sevens.length + 1) (.call .next)) outcome) ∧
    (Probe.mk 3 #[4, 8, 7]).access.sequence.Leaves (·.indexBetween 4 0 9)
      [.call .size, .log (.rangeRejected 0 9 3)] (.ok (.error (.invalidRange 0 9 3))) := by
  have runs : crowd.RunsOver sevens := iter_crowd
  have split : sevens = List.replicate Word.largest 7 ++ [7] := by
    rw [sevens, List.replicate_succ']
  have full : (List.replicate Word.largest 7).countP (· == 7) = Word.largest := by
    rw [List.countP_replicate, if_pos (beq_self_eq_true 7)]
  have leaves := runs.leaves_count_overflowing 7 split full rfl
  have length : (List.replicate Word.largest 7).length + 1 = sevens.length := by
    rw [split, List.length_append, List.length_singleton]
  rw [length] at leaves
  exact ⟨⟨runs, leaves, leaves.not_longer⟩, ⟨rfl, rfl⟩⟩

end SequenceKit
