import SequenceKit.Proofs.Sequence.Requests

/-!
# Backward walks go on after faults

An implementor may stop with a fault at any position, also below its size.  A backward walk that
meets such a position loses the move, and no more: the position has left the range before it was
asked for, so the moves that follow find a sound range and never ask for it again.

**One move.**  A move works at one end and takes the positions there one after the other, up to
the first fault.  `Reversed.next` are the next positions at an end, `Reversed.without` is the range
that is left when they have been taken, and `ReadUpTo` says how a run of reads came to its end.
`Walk.Consumes` puts the three together.  It is kept by `pure` and `bind`, so the composed moves
need no more than the single read, `consumes_pull`.

**All moves.**  `Move.outcomes` are the answers of a walk, each a value or the fault of its move.
What the moves at one end ask for is, in one piece, what comes next at that end:
`Move.exists_taken`.

* **`walk_sound_across_faults`** — the range, the requests and the answers of any walk.
-/

namespace SequenceKit

variable {α β γ : Type}

/-! ## Positions at an end -/

namespace Reversed

/-- The next positions at one end of a range, in the order in which they are taken. -/
def next (r : Reversed) : Side → Nat → List Nat
  | .back, k => (List.range k).map (r.back - 1 - ·)
  | .front, k => (List.range k).map (r.front + ·)

lemma front_le_back_sub (r : Reversed) (k : Nat) : r.front ≤ r.back - min k r.len := by
  have ends := r.front_le_back
  rw [len]
  omega

lemma front_add_le_back (r : Reversed) (k : Nat) : r.front + min k r.len ≤ r.back := by
  have ends := r.front_le_back
  rw [len]
  omega

/-- The range without the next positions at one end; with all of them gone it is used up. -/
def without (r : Reversed) : Side → Nat → Reversed
  | .back, k => ⟨r.front, r.back - min k r.len, r.front_le_back_sub k⟩
  | .front, k => ⟨r.front + min k r.len, r.back, r.front_add_le_back k⟩

lemma ext_ends {r r' : Reversed} (front : r.front = r'.front) (back : r.back = r'.back) :
    r = r' := by
  cases r
  cases r'
  subst front back
  rfl

variable {r : Reversed} {side : Side} {j k : Nat}

lemma without_zero (r : Reversed) (side : Side) : r.without side 0 = r := by
  cases side <;> simp [without]

lemma len_without (side : Side) (le : k ≤ r.len) : (r.without side k).len + k = r.len := by
  have ends := r.front_le_back
  cases side <;> simp only [without, len] at le ⊢ <;> omega

/-- Positions go missing at their end only. -/
lemma ends_without (side : Side) (le : k ≤ r.len) :
    (r.without side k).front = r.front + (if side = .front then k else 0) ∧
      (r.without side k).back + (if side = .back then k else 0) = r.back := by
  have clamp : min k r.len = k := Nat.min_eq_left le
  have inside : k ≤ r.back := le.trans (Nat.sub_le r.back r.front)
  cases side with
  | back => simp [without, clamp, Nat.sub_add_cancel inside]
  | front => simp [without, clamp]

lemma without_without (le : j ≤ r.len) (le' : k ≤ (r.without side j).len) :
    (r.without side j).without side k = r.without side (j + k) := by
  have left := len_without side le
  cases side with
  | back => apply ext_ends <;> simp only [without, len] at le le' left ⊢; omega
  | front => apply ext_ends <;> simp only [without, len] at le le' left ⊢; omega

/-- First the next positions, then those that come next behind them. -/
lemma next_add (side : Side) (le : j ≤ r.len) (k : Nat) :
    r.next side (j + k) = r.next side j ++ (r.without side j).next side k := by
  have clamp : min j r.len = j := Nat.min_eq_left le
  cases side with
  | back =>
      simp only [next, without, clamp, List.range_add, List.map_append, List.map_map]
      congr 2
      funext i
      simp only [Function.comp_apply]
      omega
  | front =>
      simp only [next, without, clamp, List.range_add, List.map_append, List.map_map]
      congr 2
      funext i
      simp only [Function.comp_apply]
      omega

/-- At the other end nothing has changed. -/
lemma next_without_of_ne {other : Side} (ne : side ≠ other) :
    (r.without side j).next other k = r.next other k := by
  cases side <;> cases other <;> first | rfl | exact absurd rfl ne

end Reversed

/-! ## Reads up to a fault -/

/-- Positions are read one after the other.  All reads succeed if the outcome is a value; if it is
a fault, exactly the last of them stops with it. -/
def ReadUpTo (get : Nat → Traced α) (places : List Nat) : Except Fault β → Prop
  | .ok _ => ∀ i ∈ places, ∃ a, (get i).outcome = .ok a
  | .error e => ∃ before last, places = before ++ [last] ∧
      (∀ i ∈ before, ∃ a, (get i).outcome = .ok a) ∧ (get last).outcome = .error e

lemma ReadUpTo.append {get : Nat → Traced α} {places later : List Nat} {b : β}
    {outcome : Except Fault γ} (first : ReadUpTo get places (.ok b : Except Fault β))
    (next : ReadUpTo get later outcome) : ReadUpTo get (places ++ later) outcome := by
  cases outcome with
  | ok c =>
      intro i member
      rcases List.mem_append.mp member with member | member
      · exact first i member
      · exact next i member
  | error e =>
      obtain ⟨before, last, rfl, succeeded, stopped⟩ := next
      refine ⟨places ++ before, last, by rw [List.append_assoc], ?_, stopped⟩
      intro i member
      rcases List.mem_append.mp member with member | member
      · exact first i member
      · exact succeeded i member

lemma readUpTo_one (get : Nat → Traced α) (place : Nat) (f : α → β) :
    ReadUpTo get [place] (f <$> get place).outcome := by
  rw [Traced.outcome_map]
  cases value : (get place).outcome with
  | ok a =>
      intro i member
      rw [List.mem_singleton.mp member]
      exact ⟨a, value⟩
  | error e => exact ⟨[], place, rfl, by simp, value⟩

/-- The same reads, each recorded once. -/
def recordedReads (get : Nat → Traced α) (place : Nat) : Traced α :=
  (get place).recordedAs (.get place)

lemma Traced.map_recordedAs (c : Call) (x : Traced α) (f : α → β) :
    f <$> x.recordedAs c = (f <$> x).recordedAs c := by
  rw [map_eq_pure_bind, map_eq_pure_bind]
  cases x with
  | mk marks outcome => cases outcome <;> rfl

/-- One recorded read at each of the positions. -/
def readsAt (places : List Nat) : List Event :=
  places.map fun place => .call (.get place)

lemma readsAt_append (places later : List Nat) :
    readsAt (places ++ later) = readsAt places ++ readsAt later := by
  simp [readsAt]

lemma calls_readsAt (places : List Nat) (outcome : Except Fault β) :
    (Traced.mk (readsAt places) outcome).calls = places.map .get := by
  rw [Traced.calls, readsAt, List.filterMap_map]
  show places.filterMap (some ∘ Call.get) = _
  rw [List.filterMap_eq_map]

/-! ## Walks at one end -/

namespace Walk

/-- On every range, and whatever the reads do, the walk takes some of the next positions at one
end and reads just these, up to the first fault.  Recording the reads changes nothing else. -/
def Consumes (side : Side) (w : (Nat → Traced α) → Walk β) : Prop :=
  ∀ (get : Nat → Traced α) (r : Reversed), ∃ k ≤ r.len,
    (w get r).2 = r.without side k ∧
    ReadUpTo get (r.next side k) (w get r).1.outcome ∧
    w (recordedReads get) r = (⟨readsAt (r.next side k), (w get r).1.outcome⟩, r.without side k)

variable {side : Side}

lemma consumes_pure (side : Side) (b : β) :
    Consumes side fun _ : Nat → Traced α => (pure b : Walk β) := by
  intro get r
  refine ⟨0, Nat.zero_le _, (r.without_zero side).symm, ?_, ?_⟩
  · intro i member
    cases side <;> simp [Reversed.next] at member
  · have none_read : r.next side 0 = [] := by cases side <;> rfl
    rw [none_read, r.without_zero side]
    rfl

/-- Behind a value the second walk goes on from the range that the first has left; behind a fault
there is no second walk, and that range stays. -/
lemma Consumes.bind {w : (Nat → Traced α) → Walk β} {f : β → (Nat → Traced α) → Walk γ}
    (first : Consumes side w) (later : ∀ b, Consumes side (f b)) :
    Consumes side fun get => w get >>= fun b => f b get := by
  intro get r
  obtain ⟨k, le, left, read, recorded⟩ := first get r
  have here : (w get >>= fun b => f b get) r = Walk.bind (w get) (fun b => f b get) r := rfl
  have watched : (w (recordedReads get) >>= fun b => f b (recordedReads get)) r =
      Walk.bind (w (recordedReads get)) (fun b => f b (recordedReads get)) r := rfl
  dsimp only
  rw [here, watched, Walk.bind, Walk.bind, recorded]
  cases value : (w get r).1.outcome with
  | error e =>
      rw [value] at read
      exact ⟨k, le, left, read, rfl⟩
  | ok b =>
      rw [value] at read
      rw [left]
      obtain ⟨k', le', left', read', recorded'⟩ := later b get (r.without side k)
      have whole := Reversed.next_add side le k'
      have enough := Reversed.len_without side le
      refine ⟨k + k', by omega, ?_, ?_, ?_⟩
      · rw [← Reversed.without_without le le', ← left']
      · rw [whole]
        exact read.append read'
      · dsimp only
        rw [recorded', whole, readsAt_append, Reversed.without_without le le']
        rfl

lemma Consumes.map {w : (Nat → Traced α) → Walk β} (h : Consumes side w) (f : β → γ) :
    Consumes side fun get => (do return f (← w get) : Walk γ) :=
  h.bind fun b => consumes_pure side (f b)

/-- A single read takes one position, and it does so before it may stop. -/
lemma consumes_pull (side : Side) : Consumes side fun get : Nat → Traced α => pull get side := by
  intro get r
  by_cases used : r.front = r.back
  · have nothing (get : Nat → Traced α) : pull get side r = (pure none, r) :=
      pull_of_used get side used
    refine ⟨0, Nat.zero_le _, ?_, ?_, ?_⟩
    · dsimp only
      rw [nothing, r.without_zero]
    · dsimp only
      rw [nothing]
      intro i member
      cases side <;> simp [Reversed.next] at member
    · dsimp only
      have none_read : r.next side 0 = [] := by cases side <;> rfl
      rw [nothing, nothing, none_read, r.without_zero]
      rfl
  · have lt : r.front < r.back := Nat.lt_of_le_of_ne r.front_le_back used
    have one : min 1 r.len = 1 := by rw [Reversed.len]; omega
    -- the position that is taken, and the range behind it
    have taken : ∃ place, r.next side 1 = [place] ∧
        ∀ get : Nat → Traced α, pull get side r = (some <$> get place, r.without side 1) := by
      cases side with
      | back =>
          refine ⟨r.back - 1, by simp [Reversed.next], fun get => ?_⟩
          rw [pull_back get lt]
          simp only [Reversed.without, one]
      | front =>
          refine ⟨r.front, by simp [Reversed.next], fun get => ?_⟩
          rw [pull_front get lt]
          simp only [Reversed.without, one]
    obtain ⟨place, only, run⟩ := taken
    refine ⟨1, by rw [Reversed.len]; omega, ?_, ?_, ?_⟩
    · dsimp only
      rw [run]
    · dsimp only
      rw [run, only]
      exact readUpTo_one get place some
    · dsimp only
      rw [run, run, only, recordedReads, Traced.map_recordedAs]
      rfl

/-- Behind a read the walk goes on with the element, or it is over. -/
lemma consumes_pull_then {f : α → (Nat → Traced α) → Walk β} (b : β)
    (later : ∀ a, Consumes side (f a)) :
    Consumes side fun get => (pull get side >>= fun
      | none => pure b
      | some a => f a get : Walk β) := by
  have pulled : Consumes side fun get : Nat → Traced α => pull get side := consumes_pull side
  have whole := pulled.bind (f := fun
      | none => fun _ => pure b
      | some a => f a) (by
    intro taken
    cases taken with
    | none => exact consumes_pure side b
    | some a => exact later a)
  convert whole using 3 with get
  funext taken
  cases taken <;> rfl

lemma consumes_nth (side : Side) (k : Nat) :
    Consumes side fun get : Nat → Traced α => nth get side k := by
  induction k with
  | zero => exact consumes_pull side
  | succ k ih => exact consumes_pull_then none fun _ => ih

lemma consumes_drainUpTo (side : Side) (fuel : Nat) :
    Consumes side fun get : Nat → Traced α => drainUpTo get side fuel := by
  induction fuel with
  | zero => exact consumes_pure side []
  | succ fuel ih => exact consumes_pull_then [] fun a => ih.map (a :: ·)

lemma consumes_drain (side : Side) : Consumes side fun get : Nat → Traced α => drain get side :=
  fun get r => consumes_drainUpTo side r.len get r

end Walk

/-! ## Moves -/

namespace Move

/-- Every move works at its own end. -/
lemma consumes_run (m : Move) : Walk.Consumes m.side fun get : Nat → Traced α => m.run get := by
  cases m with
  | next => exact (Walk.consumes_pull .back).map _
  | nextBack => exact (Walk.consumes_pull .front).map _
  | nth k => exact (Walk.consumes_nth .back k).map _
  | nthBack k => exact (Walk.consumes_nth .front k).map _
  | len =>
      intro get r
      dsimp only
      rw [run_len, run_len]
      exact Walk.consumes_pure .back (MoveAnswer.number r.len) get r
  | sizeHint =>
      intro get r
      dsimp only
      rw [run_sizeHint, run_sizeHint]
      exact Walk.consumes_pure .back (MoveAnswer.bounds r.len r.len) get r
  | rest => exact (Walk.consumes_drain .back).map _
  | restBack => exact (Walk.consumes_drain .front).map _
  | count => exact (Walk.consumes_drain .back).map _
  | last => exact (Walk.consumes_drain .back).map _

/-- With no position left a move has nothing to read and nothing to change. -/
lemma run_of_used {r : Reversed} (used : r.front = r.back) (get : Nat → Traced α) (m : Move) :
    m.run get r = (pure m.vacant, r) := by
  have none_left : r.len = 0 := by rw [Reversed.len, used, Nat.sub_self]
  have pulled (side : Side) : Walk.pull get side r = (pure none, r) :=
    Walk.pull_of_used get side used
  have skipped (side : Side) (k : Nat) : Walk.nth get side k r = (pure none, r) := by
    cases k with
    | zero => exact pulled side
    | succ k => exact Walk.bind_of_eq (pulled side) _
  have drained (side : Side) : Walk.drain get side r = (pure [], r) := by
    rw [Walk.drain, none_left]
    rfl
  cases m with
  | next => exact Walk.bind_of_eq (pulled .back) _
  | nextBack => exact Walk.bind_of_eq (pulled .front) _
  | nth k => exact Walk.bind_of_eq (skipped .back k) _
  | nthBack k => exact Walk.bind_of_eq (skipped .front k) _
  | len =>
      rw [run_len, none_left]
      rfl
  | sizeHint =>
      rw [run_sizeHint, none_left]
      rfl
  | rest => exact Walk.bind_of_eq (drained .back) _
  | restBack => exact Walk.bind_of_eq (drained .front) _
  | count => exact Walk.bind_of_eq (drained .back) _
  | last => exact Walk.bind_of_eq (drained .back) _

/-! ## Walks through many moves -/

/-- The answers of a walk: of each move its value, or the fault that it has stopped with. -/
def outcomes (get : Nat → Traced α) : List Move → Reversed → List (Except Fault (MoveAnswer α))
  | [], _ => []
  | m :: later, r => (m.run get r).1.outcome :: outcomes get later (m.run get r).2

/-- The marks of a walk, those of its faulty moves among them. -/
def marks (get : Nat → Traced α) : List Move → Reversed → List Event
  | [], _ => []
  | m :: later, r => (m.run get r).1.trace ++ marks get later (m.run get r).2

/-- The calls of those moves of a walk that work at a given end. -/
def callsFrom (get : Nat → Traced α) (end_ : Side) : List Move → Reversed → List Call
  | [], _ => []
  | m :: later, r =>
      (if m.side = end_ then (m.run get r).1.calls else []) ++
        callsFrom get end_ later (m.run get r).2

lemma runAll_eq (get : Nat → Traced α) (moves : List Move) : ∀ r : Reversed,
    runAll get moves r = ⟨marks get moves r, .ok (outcomes get moves r)⟩ := by
  induction moves with
  | nil => intro r; rfl
  | cons m later ih =>
      intro r
      have rest : ((m.run get r).1.outcome :: ·) <$> runAll get later (m.run get r).2 =
          ⟨marks get later (m.run get r).2, .ok (outcomes get (m :: later) r)⟩ := by
        rw [ih, map_eq_pure_bind]
        exact congrArg (Traced.mk · _) (List.append_nil _)
      exact congrArg (Traced.after (m.run get r).1.trace) rest

lemma length_outcomes (get : Nat → Traced α) (moves : List Move) : ∀ r : Reversed,
    (outcomes get moves r).length = moves.length := by
  induction moves with
  | nil => intro r; rfl
  | cons m later ih => intro r; simp [outcomes, ih]

section Append

variable (get : Nat → Traced α) (moves later : List Move)

lemma outcomes_append : ∀ r : Reversed, outcomes get (moves ++ later) r =
    outcomes get moves r ++ outcomes get later (rangeAfter get moves r) := by
  induction moves with
  | nil => intro r; rfl
  | cons m more ih => intro r; simp [outcomes, rangeAfter, ih]

lemma marks_append : ∀ r : Reversed, marks get (moves ++ later) r =
    marks get moves r ++ marks get later (rangeAfter get moves r) := by
  induction moves with
  | nil => intro r; rfl
  | cons m more ih => intro r; simp [marks, rangeAfter, ih]

end Append

/-- A range that is used up stays so. -/
lemma outcomes_of_used {r : Reversed} (used : r.front = r.back) (get : Nat → Traced α)
    (later : List Move) :
    outcomes get later r = later.map (.ok ·.vacant) ∧ marks get later r = [] := by
  induction later with
  | nil => exact ⟨rfl, rfl⟩
  | cons m more ih =>
      obtain ⟨answers, silent⟩ := ih
      constructor
      · rw [outcomes, run_of_used used, answers]
        rfl
      · rw [marks, run_of_used used, silent]
        rfl

/-- Recording the reads changes neither the answers of a walk nor its range. -/
lemma outcomes_recorded (get : Nat → Traced α) (moves : List Move) : ∀ r : Reversed,
    outcomes (recordedReads get) moves r = outcomes get moves r ∧
      rangeAfter (recordedReads get) moves r = rangeAfter get moves r := by
  induction moves with
  | nil => intro r; exact ⟨rfl, rfl⟩
  | cons m later ih =>
      intro r
      obtain ⟨k, -, left, -, recorded⟩ := consumes_run m get r
      dsimp only at left recorded
      rw [outcomes, outcomes, rangeAfter, rangeAfter, recorded, left]
      exact ⟨congrArg _ (ih _).1, (ih _).2⟩

/-- What the moves at an end ask for is what comes next at that end, in one piece; and just so
much is missing from the range at that end. -/
lemma exists_taken (get : Nat → Traced α) (moves : List Move) : ∀ r : Reversed,
    ∃ taken : Side → Nat,
      (∀ side, callsFrom (recordedReads get) side moves r =
        (r.next side (taken side)).map .get) ∧
      (rangeAfter get moves r).front = r.front + taken .front ∧
      (rangeAfter get moves r).back + taken .back = r.back := by
  induction moves with
  | nil =>
      intro r
      refine ⟨fun _ => 0, fun side => ?_, rfl, rfl⟩
      cases side <;> rfl
  | cons m later ih =>
      intro r
      obtain ⟨k, le, left, -, recorded⟩ := consumes_run m get r
      dsimp only at left recorded
      obtain ⟨taken, calls, front, back⟩ := ih (r.without m.side k)
      have own : (m.run (recordedReads get) r).1.calls = (r.next m.side k).map .get := by
        rw [recorded, calls_readsAt]
      have rest : (m.run (recordedReads get) r).2 = r.without m.side k := by
        rw [recorded]
      have ends := Reversed.ends_without m.side le
      refine ⟨fun side => (if m.side = side then k else 0) + taken side, ?_, ?_, ?_⟩
      · intro side
        rw [callsFrom, own, rest, calls]
        dsimp only
        by_cases here : m.side = side
        · subst here
          rw [if_pos rfl, if_pos rfl, ← List.map_append, ← Reversed.next_add _ le]
        · rw [if_neg here, if_neg here, Reversed.next_without_of_ne here, Nat.zero_add]
          rfl
      · rw [rangeAfter, left, front, ends.1, Nat.add_assoc]
      · rw [rangeAfter, left]
        dsimp only
        omega

end Move

/-! ## Positions that have been taken -/

namespace Reversed.Takes

variable {r r' : Reversed} {path : List (Side × Nat)}

lemma front_le (h : r.Takes path r') : ∀ taken ∈ path, r.front ≤ taken.2 := by
  induction h with
  | none r => exact fun _ member => nomatch member
  | @back r r' later lt rest ih =>
      rintro taken (_ | ⟨_, member⟩)
      · exact Nat.le_sub_one_of_lt lt
      · exact ih taken member
  | @front r r' later lt rest ih =>
      rintro taken (_ | ⟨_, member⟩)
      · exact Nat.le_refl _
      · exact (Nat.le_succ _).trans (ih taken member)

/-- No position is taken twice, from whichever end. -/
lemma nodup (h : r.Takes path r') : (path.map Prod.snd).Nodup := by
  induction h with
  | none r => exact List.nodup_nil
  | @back r r' later lt rest ih =>
      refine List.nodup_cons.mpr ⟨fun again => ?_, ih⟩
      obtain ⟨taken, member, same⟩ := List.mem_map.mp again
      have below : taken.2 < r.back - 1 := rest.lt_back taken member
      omega
  | @front r r' later lt rest ih =>
      refine List.nodup_cons.mpr ⟨fun again => ?_, ih⟩
      obtain ⟨taken, member, same⟩ := List.mem_map.mp again
      have above : r.front + 1 ≤ taken.2 := rest.front_le taken member
      omega

lemma len_add (h : r.Takes path r') : r'.len + path.length = r.len := by
  induction h with
  | none r => rfl
  | @back r r' later lt rest ih =>
      simp only [len, List.length_cons] at ih ⊢
      omega
  | @front r r' later lt rest ih =>
      simp only [len, List.length_cons] at ih ⊢
      omega

end Reversed.Takes

/-- **A backward walk stays sound across faults.**  Let a sequence tell the size `n`, and let its
reads succeed or stop with a fault at any position, also below `n`.  Let a backward walk go through
any list of moves, each from the range that the one before has left, whether that one ended with a
value or with a fault.  Then, with `back` and `front` the numbers of requests from the two ends,

* every move has an answer, and recording the requests changes none of them;
* no position is asked for twice;
* the requests from the back end are `n - 1`, `n - 2`, …, those from the front end 0, 1, …;
* the range begins at `front` and ends at `n - back`, and does not end before it begins;
* asked for the length, the walk answers with `n` less the number of requests;
* the next move takes some positions that come next at its end and asks for these only.  If it
  has a value, all these reads succeeded; if it has a fault, it is the fault of the last of them,
  and the range lacks these positions and no more;
* after `n` requests every later move answers that nothing is left, and makes no request. -/
theorem walk_sound_across_faults [BEq α] {s : Access α} {n : Nat} (size : s.size.outcome = .ok n)
    (moves : List Move) :
    let range := Move.rangeAfter s.get moves (.ofSize n)
    let answers := Move.outcomes s.get moves (.ofSize n)
    ∃ (back front : Nat) (places : List Nat),
      ((s.sequence.walk moves).outcome = .ok answers ∧ answers.length = moves.length ∧
        s.recorded.sequence.walk moves = ⟨.call .size :: readsAt places, .ok answers⟩) ∧
      (places.Nodup ∧ places.length = back + front) ∧
      (Move.callsFrom s.recorded.get .back moves (.ofSize n) =
          (List.range back).map (fun i => .get (n - 1 - i)) ∧
        Move.callsFrom s.recorded.get .front moves (.ofSize n) = (List.range front).map .get) ∧
      (range.front = front ∧ range.back + back = n ∧ range.front ≤ range.back) ∧
      (s.sequence.walk (moves ++ [.len])).outcome =
        .ok (answers ++ [.ok (.number (n - places.length))]) ∧
      (∀ m : Move, ∃ k ≤ range.len,
        (m.run s.recorded.get range).1.calls = (range.next m.side k).map .get ∧
        ReadUpTo s.get (range.next m.side k) (m.run s.get range).1.outcome ∧
        (m.run s.get range).2 = range.without m.side k) ∧
      (places.length = n → ∀ later : List Move, s.recorded.sequence.walk (moves ++ later) =
        ⟨.call .size :: readsAt places, .ok (answers ++ later.map (.ok ·.vacant))⟩) := by
  intro range answers
  let start := Reversed.ofSize n
  have recorded : ∀ place, (s.recorded.get place).trace = [.call (.get place)] := fun _ => rfl
  obtain ⟨taken, calls, front, back⟩ := Move.exists_taken s.get moves start
  obtain ⟨path, reads, takes⟩ := Move.runAll_takes recorded moves start
  obtain ⟨same, sameRange⟩ := Move.outcomes_recorded s.get moves start
  have number_taken : range.front = taken .front := front.trans (Nat.zero_add _)
  have number_left : range.back + taken .back = n := back
  rw [show Move.rangeAfter s.recorded.get moves start = range from sameRange] at takes
  have number : range.len + path.length = n := takes.len_add
  -- the size is asked for once, and a walk is what its moves make of it
  have own (moves : List Move) :
      (s.sequence.walk moves).outcome = .ok (Move.outcomes s.get moves start) := by
    have asked : s.sequence.reversed.outcome = .ok start := Traced.outcome_bind_of_ok size _
    rw [Sequence.walk, Traced.outcome_bind_of_ok asked]
    exact congrArg Traced.outcome (Move.runAll_eq s.get moves start)
  have watched (moves : List Move) : s.recorded.sequence.walk moves =
      ⟨.call .size :: Move.marks s.recorded.get moves start,
        .ok (Move.outcomes s.recorded.get moves start)⟩ := by
    have asked : s.recorded.sequence.reversed = ⟨[.call .size], .ok start⟩ := by
      show Traced.bind ⟨[.call .size], s.size.outcome⟩ _ = _
      rw [size]
      rfl
    rw [Sequence.walk, asked]
    show Traced.bind ⟨[.call .size], .ok start⟩ (Move.runAll s.recorded.get moves) = _
    rw [Traced.bind]
    dsimp only
    rw [Move.runAll_eq]
    rfl
  have marks : Move.marks s.recorded.get moves start = readsAt (path.map Prod.snd) := by
    rw [Move.runAll_eq] at reads
    dsimp only at reads
    rw [reads, readsOf, readsAt, List.map_map]
    rfl
  refine ⟨taken .back, taken .front, path.map Prod.snd, ⟨own moves, ?_, ?_⟩, ⟨takes.nodup, ?_⟩,
    ⟨?_, ?_⟩, ⟨number_taken, number_left, range.front_le_back⟩, ?_, ?_, ?_⟩
  · exact Move.length_outcomes s.get moves start
  · rw [watched, marks]
    exact congrArg (fun answers => Traced.mk _ (.ok answers)) same
  · have ends := range.front_le_back
    rw [List.length_map]
    simp only [Reversed.len] at number
    omega
  · have requests := calls .back
    rw [Reversed.next, List.map_map] at requests
    exact requests
  · have requests := calls .front
    rw [Reversed.next, List.map_map] at requests
    rw [show s.recorded.get = recordedReads s.get from rfl, requests]
    congr 1
    funext i
    exact congrArg Call.get (Nat.zero_add i)
  · have left : n - path.length = range.len := by omega
    have asked : Move.outcomes s.get [.len] range = [.ok (.number range.len)] := by
      rw [Move.outcomes, Move.run_len]
      rfl
    rw [own, Move.outcomes_append, List.length_map, left, asked]
  · intro m
    obtain ⟨k, le, left, read, asked⟩ := Move.consumes_run m s.get range
    refine ⟨k, le, ?_, read, left⟩
    rw [show s.recorded.get = recordedReads s.get from rfl]
    dsimp only at asked
    rw [asked, calls_readsAt]
  · intro all later
    rw [List.length_map] at all
    have used : range.front = range.back := by
      have ends := range.front_le_back
      simp only [Reversed.len] at number
      omega
    have rest := Move.outcomes_of_used used s.recorded.get later
    rw [watched, Move.outcomes_append, Move.marks_append,
      show Move.rangeAfter s.recorded.get moves start = range from sameRange, rest.1, rest.2,
      List.append_nil, marks]
    exact congrArg (fun answers => Traced.mk _ (.ok (answers ++ _))) same

/-- A sequence of six numbers that stops with a fault at the positions 1 and 4. -/
def holed : Access Nat where
  size := pure 6
  iter := pure (.ofList [] [0, 1, 2, 3, 4, 5])
  get i := if i = 1 ∨ i = 4 then Traced.stop (.indexOutOfBounds i 6) else pure i

/-- A skip from either end runs into a fault, and the walk goes on behind it until nothing is left:
every position has been asked for once. -/
theorem walk_sound_across_faults_holed :
    holed.size.outcome = .ok 6 ∧
      ∃ places : List Nat, places.Nodup ∧ places.length = 6 ∧
        holed.recorded.sequence.walk
            ([.next, .nth 2, .len, .nextBack, .nthBack 3, .rest] ++ [.next, .restBack]) =
          ⟨.call .size :: readsAt places,
            .ok ([.ok (.element (some 5)), .error (.indexOutOfBounds 4 6), .ok (.number 4),
              .ok (.element (some 0)), .error (.indexOutOfBounds 1 6), .ok (.elements [3, 2])] ++
              [.ok (.element none), .ok (.elements [])])⟩ := by
  have size : holed.size.outcome = .ok 6 := rfl
  obtain ⟨back, front, places, -, ⟨once, number⟩, -, ⟨start, stop, -⟩, -, -, goesOn⟩ :=
    walk_sound_across_faults size [.next, .nth 2, .len, .nextBack, .nthBack 3, .rest]
  have all : places.length = 6 := by
    have front_eq : 2 = front := start
    have back_eq : 2 + back = 6 := stop
    omega
  exact ⟨size, places, once, all, goesOn all [.next, .restBack]⟩

end SequenceKit
