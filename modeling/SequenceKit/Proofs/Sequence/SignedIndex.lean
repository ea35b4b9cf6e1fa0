import SequenceKit.Instrumented.Virtual
import SequenceKit.Proofs.Sequence.Lookup
import SequenceKit.Proofs.Sequence.Safety
import SequenceKit.Proofs.Sequence.Transparency

/-!
# The signed answer

The index lookup tells a position and the absence of one in the same signed machine word: -1 is no
position.  A position can be as large as an unsigned machine word, of which only half are signed
words that are not negative.  A mere change of type would make others negative, the largest of
them -1; no sequence that is stored can have so many elements, but a position lookup may answer
with any position.

**Three cases.**  There is no position, a position that fits, or one that does not.  The answer
tells them apart, and where there is one, the position can be read back from it by a conversion
that refuses negative words (`Word.unsigned?`).

**Layers.**  A layer forwards the index lookup and does not work it out anew.  So it is the
position lookup of the sequence behind all of them that decides, be it default or not.

* `Sequence.KeepsIndex` — a sequence with the default body of the index lookup.
* **`index_tells_position`** — what the index lookup answers for each answer of the position
  lookup, through any number of layers.
-/

namespace SequenceKit

variable {α : Type}

/-- An unsigned machine word from a signed one, unless that is negative. -/
def Word.unsigned? (word : Int64) : Option UInt64 :=
  if 0 ≤ word then some word.toUInt64 else none

/-! ## The three cases -/

lemma trace_signedIndex (place : Option Nat) : (signedIndex place).trace = [] := by
  cases place with
  | none => rfl
  | some i =>
      rw [signedIndex]
      split <;> rfl

/-- Working out the answer leaves no marks. -/
lemma bind_signedIndex (x : Traced (Option Nat)) :
    x >>= signedIndex = ⟨x.trace, x.outcome.bind fun place => (signedIndex place).outcome⟩ := by
  cases ended : x.outcome with
  | error fault => exact Traced.bind_eq_of_error ended signedIndex
  | ok place =>
      rw [Traced.bind_eq_after ended, Traced.after, trace_signedIndex, List.append_nil]
      rfl

/-- There is an answer only if a position fits, and it tells the position. -/
lemma signedIndex_eq_ok_iff (place : Option Nat) (answer : Int) :
    (signedIndex place).outcome = .ok answer ↔
      asIndex place = answer ∧ ∀ i, place = some i → i ≤ maxIndex := by
  by_cases fits : ∀ i, place = some i → i ≤ maxIndex
  · rw [outcome_signedIndex fits, Except.ok.injEq, and_iff_left fits]
  · have large : ∃ i, place = some i ∧ maxIndex < i := by
      push Not at fits
      exact fits
    obtain ⟨fault, stopped⟩ := (signedIndex_stops_iff place).mpr large
    rw [stopped]
    exact iff_of_false (fun answered => nomatch answered) fun tells => fits tells.2

/-- There is no answer only for a position that is too large, and then for that reason. -/
lemma signedIndex_eq_error_iff (place : Option Nat) (fault : Fault) :
    (signedIndex place).outcome = .error fault ↔
      fault = .positionOverflow ∧ ∃ i, place = some i ∧ maxIndex < i := by
  constructor
  · intro ended
    obtain ⟨i, rfl, large⟩ := (signedIndex_stops_iff place).mp ⟨fault, ended⟩
    rw [signedIndex, if_neg (Nat.not_le.mpr large)] at ended
    exact ⟨(Except.error.inj ended).symm, i, rfl, large⟩
  · rintro ⟨rfl, i, rfl, large⟩
    rw [signedIndex, if_neg (Nat.not_le.mpr large)]
    rfl

/-- The answer is -1 for no position, and never for one that there is. -/
lemma signedIndex_eq_neg_one_iff (place : Option Nat) :
    (signedIndex place).outcome = .ok (-1) ↔ place = none := by
  rw [signedIndex_eq_ok_iff]
  constructor
  · rintro ⟨eq, -⟩
    rw [← toNat?_asIndex place, eq]
    rfl
  · rintro rfl
    exact ⟨rfl, fun i is_place => nomatch is_place⟩

lemma signedIndex_eq_natCast_iff (place : Option Nat) (i : Nat) :
    (signedIndex place).outcome = .ok (i : Int) ↔ place = some i ∧ i ≤ maxIndex := by
  rw [signedIndex_eq_ok_iff]
  constructor
  · rintro ⟨eq, fits⟩
    have is_place : place = some i := by
      rw [← toNat?_asIndex place, eq]
      rfl
    exact ⟨is_place, fits i is_place⟩
  · rintro ⟨rfl, fits⟩
    exact ⟨rfl, fun j is_place => Option.some.inj is_place ▸ fits⟩

/-- A position that fits is a signed machine word, which is the same word unsigned. -/
lemma Word.exists_signed {i : Nat} (fits : i ≤ maxIndex) :
    ∃ word : Int64, word.toInt = i ∧ (Word.unsigned? word).map UInt64.toNat = some i := by
  have lt : i < 2 ^ 63 := Nat.lt_succ_of_le fits
  have value : (Int64.ofNat i).toInt = i := Int64.toInt_ofNat_of_lt lt
  have nonneg : 0 ≤ Int64.ofNat i := Int64.le_iff_toInt_le.mpr (value.symm ▸ Int.natCast_nonneg i)
  refine ⟨Int64.ofNat i, value, ?_⟩
  rw [Word.unsigned?, if_pos nonneg, Option.map_some, Int64.toNat_toUInt64_of_le nonneg]
  show some (Int64.ofNat i).toInt.toNat = _
  rw [value, Int.toNat_natCast]

/-- Every answer is a signed machine word, and the position can be read back from it. -/
lemma read_back_of_signedIndex {place : Option Nat} {answer : Int}
    (answered : (signedIndex place).outcome = .ok answer) :
    answer.toNat? = place ∧
      ∃ word : Int64, word.toInt = answer ∧ (Word.unsigned? word).map UInt64.toNat = place := by
  obtain ⟨rfl, fits⟩ := (signedIndex_eq_ok_iff place answer).mp answered
  refine ⟨toNat?_asIndex place, ?_⟩
  cases place with
  | none => exact ⟨-1, rfl, rfl⟩
  | some i => exact Word.exists_signed (fits i rfl)

/-! ## The lookup -/

/-- The index lookup has its default body; the position lookup that it asks may be any. -/
def Sequence.KeepsIndex (s : Sequence α) : Prop :=
  ∀ value, s.index value = s.position value >>= signedIndex

lemma Sequence.keepsIndex_withPosition (s : Sequence α) (position : α → Traced (Option Nat)) :
    (s.withPosition position).KeepsIndex :=
  fun _ => rfl

/-- **The index lookup tells the position.**  Let a sequence keep the default body of the index
lookup, and let its position lookup be any, with any answer.  Behind any number of layers, views
and newtypes in any order, the index lookup does what the position lookup of the sequence does and
nothing else, stops where that stops, and otherwise

* answers -1 exactly if there is no position;
* answers with a number that is not negative exactly if that is the position and it fits;
* stops, with the fault for that, exactly if the position does not fit.

So each answer, read back as an unsigned word, is the position. -/
theorem index_tells_position [BEq α] {s : Sequence α} (keeps : s.KeepsIndex)
    (layers : List Layer) (value : α) :
    (s.stack layers).position value = s.position value ∧
      ((s.stack layers).index value).trace = (s.position value).trace ∧
      (∀ fault, (s.position value).outcome = .error fault →
        ((s.stack layers).index value).outcome = .error fault) ∧
      ∀ found, (s.position value).outcome = .ok found →
        (((s.stack layers).index value).outcome = .ok (-1) ↔ found = none) ∧
        (∀ i : Nat, ((s.stack layers).index value).outcome = .ok (i : Int) ↔
          found = some i ∧ i ≤ maxIndex) ∧
        (∀ fault, ((s.stack layers).index value).outcome = .error fault ↔
          fault = .positionOverflow ∧ ∃ i, found = some i ∧ maxIndex < i) ∧
        ∀ answer, ((s.stack layers).index value).outcome = .ok answer →
          answer.toNat? = found ∧
            ∃ word : Int64, word.toInt = answer ∧
              (Word.unsigned? word).map UInt64.toNat = found := by
  have position : (s.stack layers).position value = s.position value :=
    Sequence.ask_stack layers s (.position value)
  have index : (s.stack layers).index value = s.position value >>= signedIndex :=
    (Sequence.ask_stack layers s (.index value)).trans (keeps value)
  rw [index, bind_signedIndex]
  refine ⟨position, rfl, fun fault stopped => ?_, fun found answer => ?_⟩
  · rw [stopped]
    rfl
  · rw [answer]
    exact ⟨signedIndex_eq_neg_one_iff found, signedIndex_eq_natCast_iff found,
      signedIndex_eq_error_iff found, fun _ answered => read_back_of_signedIndex answered⟩

/-- The largest machine word. -/
def largest : UInt64 :=
  18446744073709551615

/-- The largest word is -1 when its type is changed; as a position, behind three layers, it is told
as a fault, while -1 is the answer for a value that is missing. -/
theorem index_tells_position_farthest :
    let s := (Distant.mk largest.toNat #[1, 2, 3]).sequence
    let layers := [Layer.view, Layer.newtype, Layer.view]
    s.KeepsIndex ∧ largest.toInt64 = -1 ∧
      (s.position 2).outcome = .ok (some largest.toNat) ∧
      ((s.stack layers).index 2).outcome = .error .positionOverflow ∧
      (s.position 9).outcome = .ok none ∧
      ((s.stack layers).index 9).outcome = .ok (-1) := by
  intro s layers
  have keeps : s.KeepsIndex := Sequence.keepsIndex_withPosition _ _
  have far : (s.position 2).outcome = .ok (some largest.toNat) := rfl
  have missing : (s.position 9).outcome = .ok none := rfl
  obtain ⟨-, -, -, present⟩ := index_tells_position keeps layers 2
  obtain ⟨-, -, -, absent⟩ := index_tells_position keeps layers 9
  have too_large : maxIndex < largest.toNat := by decide
  exact ⟨keeps, by decide, far,
    ((present _ far).2.2.1 .positionOverflow).mpr ⟨rfl, largest.toNat, rfl, too_large⟩, missing,
    (absent _ missing).1.mpr rfl⟩

end SequenceKit
