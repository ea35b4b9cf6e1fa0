import SequenceKit.Proofs.Sequence.Counting
import SequenceKit.Proofs.Sequence.Requests

/-!
# The default bodies stop at nothing but large numbers

An implementor has to provide a size, a cursor and reads.  If each read below the size gives an
element, hardly a default body stops with a fault, whatever is asked: the cursor may run over other
elements than the reads show, more or fewer of them, and reads at the size and above may do
anything.  The exceptions are two numbers that may be too large for their answers.  The index lookup
has to answer with a signed number, and the counting lookup with a machine word; and a cursor that
is not bound by the size can yield more hits than a word can tell.

**Reads.**  No default body reads at a position that is not below the size.

**Machine arithmetic.**  The default bodies subtract behind a guard (`last`), or where the ends of a
range do not cross (`Walk.remaining`), and a backward walk moves its two ends one by one.  That none
of this leaves the machine words, however the walk is moved and however large the size is, rests on
the ends never crossing.

* `Access.Readable` — what is asked of an implementor.
* `Access.Safe`, `Access.SafeWalk` — what a lookup, and a walk, then do.
* **`default_bodies_safe`** — every default body, for every argument and every list of moves.
-/

namespace SequenceKit

variable {α β : Type}

/-! ## What is asked of an implementor, and what it gets -/

/-- The size is the word `n`, emptiness has the default body, the cursor is finite, and every read
below the size gives an element.  Size, cursor and reads need not agree with one another. -/
structure Access.Readable (s : Access α) (n : Nat) (elements : List α) : Prop where
  size : s.size.outcome = .ok n
  word : n ≤ Word.largest
  isEmpty : s.isEmpty = s.sizeIsZero
  iter : ∃ c, s.iter.outcome = .ok c ∧ c.Yields elements
  get : ∀ i < n, ∃ a, (s.get i).outcome = .ok a

/-- A method of the sequence of default bodies ends with a value, which recording does not change,
and reads at no position that is not below `n`. -/
def Access.Safe [BEq α] (s : Access α) (n : Nat) (method : Sequence α → Traced β) : Prop :=
  ∃ b, (method s.sequence).outcome = .ok b ∧ (method s.recorded.sequence).outcome = .ok b ∧
    (method s.recorded.sequence).Only (Call.Below n)

/-- A backward walk through the moves.  Every move ends with a value.  After the size the walk asks
for elements only, all at positions below the size, each just taken from an end of the range that
is left.  At such a position both steps stay within the words, the one of the front end up from it
and the one of the back end down to it; and the difference of the two ends that are left is the
number that the walk would answer with next. -/
def Access.SafeWalk [BEq α] (s : Access α) (n : Nat) (moves : List Move) : Prop :=
  ∃ (answers : List (MoveAnswer α)) (path : List (Side × Nat)) (r : Reversed) (left : Nat),
    (s.sequence.walk moves).outcome = .ok (answers.map .ok) ∧
    (s.recorded.sequence.walk moves).outcome = .ok (answers.map .ok) ∧
    (s.recorded.sequence.walk moves).calls = .size :: path.map (.get ·.2) ∧
    (Reversed.ofSize n).Takes path r ∧
    (∀ taken ∈ path, taken.2 < n ∧
      (Word.add taken.2 1).outcome = .ok (taken.2 + 1) ∧
      (Word.sub (taken.2 + 1) 1).outcome = .ok taken.2) ∧
    (Word.sub r.back r.front).outcome = .ok left ∧
    (s.sequence.walk (moves ++ [.len, .sizeHint])).outcome =
      .ok ((answers ++ [MoveAnswer.number left, .bounds left left]).map .ok)

/-- A signed answer is refused only for a position that is too large. -/
lemma signedIndex_stops_iff (place : Option Nat) :
    (∃ fault, (signedIndex place).outcome = .error fault) ↔ ∃ i, place = some i ∧ maxIndex < i := by
  cases place with
  | none => simp [signedIndex]
  | some i =>
      by_cases fits : i ≤ maxIndex
      · simp [signedIndex, fits]
      · simp only [signedIndex, if_neg fits, Option.some.injEq, exists_eq_left']
        exact ⟨fun _ => by omega, fun _ => ⟨_, rfl⟩⟩

namespace Access.Readable

variable {s : Access α} {n : Nat} {elements : List α}

/-- The reads below the size show a list of that length. -/
lemma exists_positions (h : s.Readable n elements) :
    ∃ contents : List α, contents.length = n ∧ s.Positions contents := by
  choose element read using h.get
  let contents := List.ofFn fun i : Fin n => element i i.isLt
  have length : contents.length = n := List.length_ofFn
  refine ⟨contents, length, by rw [h.size, length], fun {i a} stored => ?_⟩
  obtain ⟨lt, rfl⟩ := List.getElem?_eq_some_iff.mp stored
  rw [List.getElem_ofFn]
  exact read i (length ▸ lt)

/-- What depends on the elements of the cursor only ends alike under recording. -/
lemma outcome_over_cursor (h : s.Readable n elements) {consume : Cursor α → Traced β}
    {outcome : Except Fault β}
    (answer : ∀ {c : Cursor α}, c.Yields elements → (consume c).outcome = outcome) :
    (s.iter >>= consume).outcome = outcome ∧ (s.recorded.iter >>= consume).outcome = outcome := by
  obtain ⟨c, made, yields⟩ := h.iter
  have made' : s.recorded.iter.outcome = .ok c.recorded := Traced.outcome_map_of_ok made _
  exact ⟨(Traced.outcome_bind_of_ok made consume).trans (answer yields),
    (Traced.outcome_bind_of_ok made' consume).trans (answer yields.recorded)⟩

variable [BEq α]

/-! ## Lookups over the cursor -/

lemma outcome_contains (h : s.Readable n elements) (value : α) :
    (s.contains value).outcome = .ok (elements.any (· == value)) ∧
      (s.recorded.contains value).outcome = .ok (elements.any (· == value)) :=
  h.outcome_over_cursor fun yields => yields.outcome_any (· == value)

lemma safe_contains (h : s.Readable n elements) (value : α) :
    s.Safe n (·.contains value) :=
  ⟨_, (h.outcome_contains value).1, (h.outcome_contains value).2,
    s.only_contains value trivial trivial⟩

lemma outcome_count (h : s.Readable n elements) (value : α) :
    (s.count value).outcome = (Word.total (elements.countP (· == value))).outcome ∧
      (s.recorded.count value).outcome = (Word.total (elements.countP (· == value))).outcome :=
  h.outcome_over_cursor fun yields => yields.outcome_count (· == value)

lemma safe_count (h : s.Readable n elements) (value : α)
    (fits : elements.countP (· == value) ≤ Word.largest) : s.Safe n (·.count value) := by
  obtain ⟨own, recorded⟩ := h.outcome_count value
  rw [Word.total_of_le fits] at own recorded
  exact ⟨_, own, recorded, s.only_count value trivial trivial⟩

/-- Counting stops only where a word cannot tell the number, and reads nothing then either. -/
lemma count_stops_iff (h : s.Readable n elements) (value : α) :
    (s.recorded.sequence.count value).Only (Call.Below n) ∧
      (s.recorded.sequence.count value).outcome = (s.sequence.count value).outcome ∧
      ((∃ fault, (s.sequence.count value).outcome = .error fault) ↔
        Word.largest < elements.countP (· == value)) := by
  obtain ⟨own, recorded⟩ := h.outcome_count value
  have here : (s.sequence.count value).outcome = _ := own
  refine ⟨s.only_count value trivial trivial, recorded.trans own.symm, ?_⟩
  rw [here]
  by_cases fits : elements.countP (· == value) ≤ Word.largest
  · rw [Word.total_of_le fits]
    exact iff_of_false (fun ⟨fault, stopped⟩ => nomatch stopped) (Nat.not_lt_of_le fits)
  · have large := Nat.lt_of_not_le fits
    rw [Word.total_of_gt large]
    exact iff_of_true ⟨_, rfl⟩ large

/-! ## Lookups and reads by position -/

lemma safe_position (h : s.Readable n elements) (value : α) :
    s.Safe n (·.position value) := by
  obtain ⟨contents, rfl, shown⟩ := h.exists_positions
  exact ⟨_, shown.outcome_position value, shown.recorded.outcome_position value,
    shown.only_position value⟩

lemma safe_indexBetween (h : s.Readable n elements) (value : α) (start stop : Nat) :
    s.Safe n (·.indexBetween value start stop) := by
  obtain ⟨contents, rfl, shown⟩ := h.exists_positions
  exact ⟨_, shown.outcome_indexBetween value start stop,
    shown.recorded.outcome_indexBetween value start stop, shown.only_indexBetween value start stop⟩

lemma safe_checkedAt (h : s.Readable n elements) (place : Nat) :
    s.Safe n (·.checkedAt place) := by
  obtain ⟨contents, rfl, shown⟩ := h.exists_positions
  exact ⟨_, shown.outcome_checkedAt place, shown.recorded.outcome_checkedAt place,
    shown.only_checkedAt place⟩

lemma safe_first (h : s.Readable n elements) : s.Safe n (·.first) := by
  obtain ⟨contents, rfl, shown⟩ := h.exists_positions
  exact ⟨_, shown.outcome_first h.isEmpty, shown.recorded.outcome_first s.isEmpty_recorded,
    shown.only_first⟩

lemma safe_last (h : s.Readable n elements) : s.Safe n (·.last) := by
  obtain ⟨contents, rfl, shown⟩ := h.exists_positions
  refine ⟨_, shown.outcome_last, shown.recorded.outcome_last, ?_⟩
  intro c made
  rw [show s.recorded.sequence.last.calls = _ from shown.calls_last] at made
  split at made
  · rw [List.mem_singleton.mp made]
    trivial
  · rcases List.mem_pair.mp made with rfl | rfl
    · trivial
    · show contents.length - 1 < contents.length
      omega

/-- The index lookup reads no more than the position lookup, and stops only where the position has
no signed number. -/
lemma index_stops_iff (h : s.Readable n elements) (value : α) :
    (s.recorded.sequence.index value).Only (Call.Below n) ∧
      (s.recorded.sequence.index value).outcome = (s.sequence.index value).outcome ∧
      ((∃ fault, (s.sequence.index value).outcome = .error fault) ↔
        ∃ i, (s.sequence.position value).outcome = .ok (some i) ∧ maxIndex < i) := by
  obtain ⟨contents, rfl, shown⟩ := h.exists_positions
  have position : (s.sequence.position value).outcome = _ := shown.outcome_position value
  have index := shown.outcome_index value
  refine ⟨(shown.only_position value).bind fun place _ => only_signedIndex place,
    (shown.recorded.outcome_index value).trans index.symm, ?_⟩
  rw [index, signedIndex_stops_iff, position]
  simp only [Except.ok.injEq]

/-! ## Walks -/

lemma safeWalk (h : s.Readable n elements) (moves : List Move) : s.SafeWalk n moves := by
  obtain ⟨contents, rfl, shown⟩ := h.exists_positions
  let start := Reversed.ofSize contents.length
  let range := Move.rangeAfter s.recorded.get moves start
  have recorded : ∀ place, (s.recorded.get place).trace = [.call (.get place)] := fun _ => rfl
  obtain ⟨path, reads, takes⟩ := Move.runAll_takes recorded moves start
  have calls : (s.recorded.sequence.walk moves).calls = .size :: path.map (.get ·.2) := by
    have size : s.recorded.sequence.size.outcome = .ok contents.length := h.size
    have asked : s.recorded.sequence.reversed.outcome = .ok start :=
      Traced.outcome_bind_of_ok size _
    have once : s.recorded.sequence.reversed.calls = [.size] :=
      Traced.calls_bind_of_ok size _
    rw [Sequence.walk, Traced.calls_bind_of_ok asked, once]
    exact congrArg _ (calls_of_readsOf reads)
  refine ⟨Move.answers moves contents.reverse, path, range, range.len,
    shown.outcome_walk (s := s.sequence) moves,
    shown.recorded.outcome_walk (s := s.recorded.sequence) moves, calls, takes, ?_, ?_, ?_⟩
  · intro taken member
    have below : taken.2 < contents.length := takes.lt_back taken member
    refine ⟨below, ?_, ?_⟩
    · rw [Word.add_of_le (Nat.le_trans below h.word), Traced.outcome_pure]
    · rw [Word.sub_of_le (Nat.le_add_left 1 taken.2), Traced.outcome_pure, Nat.add_sub_cancel]
  · rw [Word.sub_of_le range.front_le_back]
    rfl
  · -- as many elements are left as the range has positions
    have still : (Move.leftAfter moves contents.reverse).length = range.len := by
      have held := (Move.runAll_refines shown.recorded.get moves start le_rfl).2
      rw [← Reversed.left_ofSize, ← held, Reversed.length_left takes.back_le]
    rw [shown.outcome_walk (s := s.sequence), Move.answers_append, Move.answers, Move.answers,
      Move.answers, Move.onDeque, Move.onDeque, still]

end Access.Readable

/-- **No default body reads too far or leaves machine arithmetic unawares.**  Let a sequence have
default bodies, a size that is any machine word, a finite cursor, and an element at each position
below the size; cursor, size and reads may contradict one another, and the comparison of elements
is arbitrary.  Then, for every value, range and position,

* membership, position and range search, the checked read and the reads of both ends end with a
  value, and read only below the size; the difference in the last of them is a word;
* so does counting, if a word can tell how many elements of the cursor equal the value, and it
  stops exactly if no word can;
* the index lookup stops exactly if the position of the value is larger than an index can be;
* a backward walk ends every move with a value, and its arithmetic stays within the words. -/
theorem default_bodies_safe [BEq α] {s : Access α} {n : Nat} {elements : List α}
    (readable : s.Readable n elements) :
    (∀ value : α, s.Safe n (·.contains value) ∧ s.Safe n (·.position value)) ∧
    (∀ value : α, (elements.countP (· == value) ≤ Word.largest → s.Safe n (·.count value)) ∧
      (s.recorded.sequence.count value).Only (Call.Below n) ∧
      (s.recorded.sequence.count value).outcome = (s.sequence.count value).outcome ∧
      ((∃ fault, (s.sequence.count value).outcome = .error fault) ↔
        Word.largest < elements.countP (· == value))) ∧
    (∀ (value : α) (start stop : Nat), s.Safe n (·.indexBetween value start stop)) ∧
    (∀ place : Nat, s.Safe n (·.checkedAt place)) ∧
    s.Safe n (·.first) ∧
    s.Safe n (·.last) ∧
    (∀ value : α, (s.recorded.sequence.index value).Only (Call.Below n) ∧
      (s.recorded.sequence.index value).outcome = (s.sequence.index value).outcome ∧
      ((∃ fault, (s.sequence.index value).outcome = .error fault) ↔
        ∃ i, (s.sequence.position value).outcome = .ok (some i) ∧ maxIndex < i)) ∧
    ∀ moves : List Move, s.SafeWalk n moves :=
  ⟨fun value => ⟨readable.safe_contains value, readable.safe_position value⟩,
    fun value => ⟨readable.safe_count value, readable.count_stops_iff value⟩,
    fun value start stop => readable.safe_indexBetween value start stop,
    fun place => readable.safe_checkedAt place, readable.safe_first, readable.safe_last,
    fun value => readable.index_stops_iff value, readable.safeWalk⟩

/-- A sequence of as many elements as a machine word can tell, each its own position.  Its cursor
runs over two elements, and a read at the size stops with a fault. -/
def vast : Access Nat where
  size := pure Word.largest
  iter := pure (.ofList [] [7, 7])
  get i := if i < Word.largest then pure i else Traced.stop .dequeOutOfBounds

/-- The last element of so large a sequence, its two sevens, and a walk at both of its ends. -/
theorem default_bodies_safe_vast :
    vast.Readable Word.largest [7, 7] ∧
      [7, 7].countP (· == 7) ≤ Word.largest ∧ vast.Safe Word.largest (·.count 7) ∧
      vast.Safe Word.largest (·.last) ∧
      vast.SafeWalk Word.largest [.next, .nthBack 2, .nextBack, .nth 5] := by
  have read : ∀ i < Word.largest, (vast.get i).outcome = .ok i := fun i lt =>
    congrArg Traced.outcome (if_pos lt)
  have readable : vast.Readable Word.largest [7, 7] :=
    { size := rfl
      word := le_rfl
      isEmpty := rfl
      iter := ⟨_, rfl, Cursor.yields_ofList [] [7, 7]⟩
      get := fun i lt => ⟨i, read i lt⟩ }
  have fits : [7, 7].countP (· == 7) ≤ Word.largest := by decide
  obtain ⟨-, counts, -, -, -, last, -, walks⟩ := default_bodies_safe readable
  exact ⟨readable, fits, (counts 7).1 fits, last, walks _⟩

/-- A finite cursor can yield more equal elements than a word can count, and then counting stops
with a fault; no read below the size is to blame, as there is none. -/
theorem count_of_crowd_stops :
    crowd.Readable 0 sevens ∧ (crowd.sequence.count 7).outcome = .error .addOverflow := by
  have readable : crowd.Readable 0 sevens :=
    { size := rfl
      word := Nat.zero_le _
      isEmpty := rfl
      iter := iter_crowd
      get := fun i lt => absurd lt (Nat.not_lt_zero i) }
  have large : Word.largest < sevens.countP (· == 7) := by
    rw [countP_sevens]
    exact Nat.lt_succ_self _
  refine ⟨readable, (readable.outcome_count 7).1.trans ?_⟩
  rw [Word.total_of_gt large]
  rfl

end SequenceKit
