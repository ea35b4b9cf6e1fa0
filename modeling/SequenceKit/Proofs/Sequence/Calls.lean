import SequenceKit.Proofs.Sequence.Positions

/-!
# Calls on the primitives

What the default bodies do to a sequence is the calls that they make on its size, its cursor and
its reads.  A sequence may leave marks of its own, or none, so its marks tell nothing about
that.

**Recording.**  `Access.recorded` replaces the marks of each primitive by one mark, the call
itself.  Values and faults stay as they are.

**Bounds on calls.**  `Traced.Only` says that all calls of a computation are of a kind.  It is
kept when computations are put together, so a bound on the calls of a default body comes from the
bounds on its parts.

* `Access.Positions.recorded` — recording changes no answer.
* `only_firstMatch` — the search reads nothing outside its range.
* `Access.only_contains`, `Access.Positions.only_position`, … — the calls of the default bodies.
-/

namespace SequenceKit

variable {α β γ : Type}

/-! ## Recording -/

/-- The value or the fault, and one call as the only mark. -/
def Traced.recordedAs (c : Call) (x : Traced α) : Traced α :=
  ⟨[.call c], x.outcome⟩

/-- The same advances, each recorded once. -/
def Cursor.recorded : Cursor α → Cursor α
  | done _ => done [.call .next]
  | stuck _ fault => stuck [.call .next] fault
  | yield _ a rest => yield [.call .next] a fun _ => (rest ()).recorded

/-- The same primitives, each recorded once.  Emptiness is not a primitive here: it is asked for
by the size. -/
def Access.recorded (s : Access α) : Access α where
  size := s.size.recordedAs .size
  iter := (Cursor.recorded <$> s.iter).recordedAs .iter
  get place := (s.get place).recordedAs (.get place)

lemma Cursor.Yields.recorded {c : Cursor α} {as : List α} (h : c.Yields as) :
    c.recorded.Yields as := by
  induction h with
  | done marks => exact .done _
  | yield marks a later ih => exact .yield _ a ih

/-- Recording changes no answer. -/
lemma Access.Positions.recorded {s : Access α} {as : List α} (h : s.Positions as) :
    s.recorded.Positions as :=
  ⟨h.size, h.get⟩

lemma Access.isEmpty_recorded (s : Access α) : s.recorded.isEmpty = s.recorded.sizeIsZero :=
  rfl

namespace Traced

lemma trace_map (x : Traced α) (f : α → β) : (f <$> x).trace = x.trace :=
  congrArg trace (map_mk x.trace x.outcome f)

/-- After a value the calls of what follows come behind. -/
lemma calls_bind_of_ok {x : Traced α} {a : α} (h : x.outcome = .ok a) (f : α → Traced β) :
    (x >>= f).calls = x.calls ++ (f a).calls := by
  rw [bind_eq_after h]
  exact List.filterMap_append

/-- After a fault there is nothing. -/
lemma calls_bind_of_error {x : Traced α} {e : Fault} (h : x.outcome = .error e)
    (f : α → Traced β) : (x >>= f).calls = x.calls := by
  rw [bind_eq_of_error h]
  rfl

lemma calls_after (c : Call) (x : Traced α) : (x.after [.call c]).calls = c :: x.calls := by
  rw [calls, after, List.filterMap_append]
  rfl

end Traced

/-! ## Bounds on calls -/

/-- The call is no read at a position that is not below the size. -/
def Call.Below (size : Nat) : Call → Prop
  | get place => place < size
  | _ => True

namespace Traced

/-- All calls are of a kind. -/
def Only (P : Call → Prop) (x : Traced α) : Prop :=
  ∀ c ∈ x.calls, P c

variable {P : Call → Prop}

lemma only_pure (a : α) : (pure a : Traced α).Only P :=
  fun _ made => nomatch made

lemma only_stop (fault : Fault) : (stop fault : Traced α).Only P :=
  fun _ made => nomatch made

lemma only_log (line : LogLine) : (log line).Only P :=
  fun _ made => nomatch made

lemma only_recordedAs {c : Call} (of_kind : P c) (x : Traced α) : (x.recordedAs c).Only P := by
  intro d made
  rw [List.mem_singleton.mp made]
  exact of_kind

/-- One computation after another makes the calls of both; the second need only be looked at
after a value that the first can end with. -/
lemma Only.bind {x : Traced α} {f : α → Traced β} (first : x.Only P)
    (later : ∀ a, x.outcome = .ok a → (f a).Only P) : (x >>= f).Only P := by
  intro c made
  cases value : x.outcome with
  | error e =>
      rw [calls_bind_of_error value] at made
      exact first c made
  | ok a =>
      rw [calls_bind_of_ok value, List.mem_append] at made
      exact made.elim (first c) (later a value c)

/-- One more call in front. -/
lemma Only.after {x : Traced α} {c : Call} (of_kind : P c) (h : x.Only P) :
    (x.after [.call c]).Only P := by
  intro d made
  rw [calls_after, List.mem_cons] at made
  rcases made with rfl | later
  · exact of_kind
  · exact h d later

end Traced

open Traced

/-! ## Calls of the parts -/

section Parts

variable {P : Call → Prop}

/-- A pass makes no call but advances. -/
lemma Cursor.only_any (next : P .next) (p : α → Bool) (c : Cursor α) :
    (c.recorded.any p).Only P := by
  induction c with
  | done marks => exact only_recordedAs next (pure false)
  | stuck marks fault => exact only_recordedAs next (stop fault)
  | yield marks a rest ih =>
      rw [recorded, any]
      split
      · exact only_recordedAs next (pure true)
      · exact (ih ()).after next

lemma only_add (a b : Nat) : (Word.add a b).Only P := by
  rw [Word.add]
  split
  · exact only_pure (a + b)
  · exact only_stop .addOverflow

lemma Cursor.only_countFrom (next : P .next) (p : α → Bool) (c : Cursor α) : ∀ n,
    (c.recorded.countFrom p n).Only P := by
  induction c with
  | done marks => exact fun n => only_recordedAs next (pure n)
  | stuck marks fault => exact fun _ => only_recordedAs next (stop fault)
  | yield marks a rest ih =>
      exact fun n => ((only_add n _).bind fun more _ => ih () more).after next

/-- The search makes no call but the reads in its range. -/
lemma only_firstMatch [BEq α] {get : Nat → Traced α} (value : α) (count : Nat) : ∀ start : Nat,
    (∀ i, start ≤ i → i < start + count → (get i).Only P) →
    (firstMatch get value start count).Only P := by
  induction count with
  | zero => intro start _; exact only_pure none
  | succ count ih =>
      intro start reads
      refine (reads start le_rfl (by omega)).bind fun a _ => ?_
      split
      · exact only_pure (some start)
      · exact ih (start + 1) fun i low high => reads i (by omega) (by omega)

lemma only_signedIndex (place : Option Nat) : (signedIndex place).Only P := by
  cases place with
  | none => exact only_pure (-1)
  | some i =>
      rw [signedIndex]
      split
      · exact only_pure (i : Int)
      · exact only_stop .positionOverflow

end Parts

/-! ## Calls of the default bodies -/

namespace Access

/-- A recorded cursor is the recorded form of a cursor. -/
lemma exists_of_iter_recorded {s : Access α} {c : Cursor α}
    (made : s.recorded.iter.outcome = .ok c) :
    ∃ own, s.iter.outcome = .ok own ∧ own.recorded = c := by
  change (Cursor.recorded <$> s.iter).outcome = _ at made
  rw [map_eq_pure_bind] at made
  obtain ⟨own, madeOwn, is_recorded⟩ := exists_of_outcome_bind made
  exact ⟨own, madeOwn, Except.ok.inj is_recorded⟩

/-! The cursor lookups read nothing by position. -/

section Cursors

variable [BEq α] (s : Access α) (value : α) {P : Call → Prop} (iter : P .iter) (next : P .next)

include iter next

lemma only_contains : (s.recorded.contains value).Only P := by
  refine (only_recordedAs iter _).bind fun c made => ?_
  obtain ⟨own, -, rfl⟩ := exists_of_iter_recorded made
  exact own.only_any next _

lemma only_count : (s.recorded.count value).Only P := by
  refine (only_recordedAs iter _).bind fun c made => ?_
  obtain ⟨own, -, rfl⟩ := exists_of_iter_recorded made
  exact own.only_countFrom next _ 0

end Cursors

namespace Positions

variable {s : Access α} {as : List α} (h : s.Positions as)

include h

/-- Every default body that reads by position asks for the size first; what it asks for next may
rely on that size. -/
lemma only_after_size {f : Nat → Traced β} (later : (f as.length).Only (Call.Below as.length)) :
    (s.recorded.size >>= f).Only (Call.Below as.length) := by
  refine (only_recordedAs trivial s.size).bind fun n asked => ?_
  cases Except.ok.inj (h.size.symm.trans asked)
  exact later

omit h in
/-- A read below the size, whatever follows it. -/
lemma only_read {place : Nat} (lt : place < as.length) {f : α → Traced β}
    (later : ∀ a, (f a).Only (Call.Below as.length)) :
    (s.recorded.get place >>= f).Only (Call.Below as.length) :=
  (only_recordedAs lt (s.get place)).bind fun a _ => later a

lemma only_checkedAt (place : Nat) : (s.recorded.checkedAt place).Only (Call.Below as.length) := by
  refine h.only_after_size ?_
  split
  · exact only_pure _
  · exact only_read (by omega) fun a => only_pure _

lemma only_first : s.recorded.first.Only (Call.Below as.length) := by
  have asked : s.recorded.isEmpty.Only (Call.Below as.length) :=
    h.only_after_size (only_pure (as.length == 0))
  refine asked.bind fun empty value => ?_
  -- behind the answer that there is an element, position 0 is below the size
  have empty_eq : as.isEmpty = empty :=
    Except.ok.inj (h.recorded.outcome_sizeIsZero.symm.trans value)
  cases as with
  | nil =>
      subst empty_eq
      exact only_pure none
  | cons a rest =>
      subst empty_eq
      exact only_read (Nat.zero_lt_succ _) fun a => only_pure (some a)

/-- The last element is read behind one subtraction, which is made only if there is an element. -/
lemma calls_last :
    s.recorded.last.calls =
      if as.length = 0 then [.size] else [.size, .get (as.length - 1)] := by
  rw [last_eq, calls_bind_of_ok h.recorded.size]
  by_cases nothing : as.length = 0
  · rw [if_neg (by omega), if_pos nothing]
    rfl
  · have lt : as.length - 1 < as.length := by omega
    rw [if_pos (by omega), if_neg nothing, calls_bind_of_ok (h.recorded.read lt)]
    rfl

variable [BEq α]

lemma only_position (value : α) : (s.recorded.position value).Only (Call.Below as.length) :=
  h.only_after_size <| only_firstMatch value _ 0 fun i _ lt =>
    only_recordedAs (show i < as.length by omega) (s.get i)

lemma only_indexBetween (value : α) (start stop : Nat) :
    (s.recorded.indexBetween value start stop).Only (Call.Below as.length) := by
  refine h.only_after_size ?_
  by_cases refused : (decide (start > stop) || decide (stop > as.length)) = true
  · rw [if_pos refused]
    exact (only_log _).bind fun _ _ => only_pure _
  · rw [if_neg refused]
    simp only [Bool.or_eq_true, decide_eq_true_eq, not_or] at refused
    have inside : ∀ i, start ≤ i → i < start + (stop - start) →
        (s.recorded.get i).Only (Call.Below as.length) := fun i _ lt =>
      only_recordedAs (show i < as.length by omega) (s.get i)
    refine (only_firstMatch value _ start inside).bind fun place _ => ?_
    cases place <;> exact only_pure _

end Positions

end Access

end SequenceKit
