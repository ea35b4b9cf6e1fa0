import SequenceKit.Proofs.Sequence.Calls

/-!
# Requests of a backward walk

However the moves of a backward walk are composed, all they do to the sequence is one thing: take
the position at one end of the remaining range out of the range and ask for the element there.
This holds for every implementor, also for one that stops with a fault at some positions.

* `Reversed.Takes` — a range is emptied from its ends, one position at a time.
* `Walk.Tracks` — a walk that asks for just the positions that it takes.  Walks put together from
  such walks are such walks, whether they end with a value or with a fault.
* `Move.tracks_run`, `Move.runAll_takes` — every move is one, and so is every list of moves.
-/

namespace SequenceKit

variable {α β γ : Type}

/-! ## Taking positions -/

/-- Positions are taken from the ends of a range, one after the other: from `r` on these, at these
ends, which leaves `r'`. -/
inductive Reversed.Takes : Reversed → List (Side × Nat) → Reversed → Prop
  | none (r : Reversed) : Takes r [] r
  | back {r r' : Reversed} {later : List (Side × Nat)} (lt : r.front < r.back)
      (rest : Takes ⟨r.front, r.back - 1, Nat.le_sub_one_of_lt lt⟩ later r') :
      Takes r ((.back, r.back - 1) :: later) r'
  | front {r r' : Reversed} {later : List (Side × Nat)} (lt : r.front < r.back)
      (rest : Takes ⟨r.front + 1, r.back, lt⟩ later r') :
      Takes r ((.front, r.front) :: later) r'

namespace Reversed.Takes

variable {r r' r'' : Reversed} {path later : List (Side × Nat)}

/-- One position at the given end. -/
lemma one_back (lt : r.front < r.back) :
    r.Takes [(.back, r.back - 1)] ⟨r.front, r.back - 1, Nat.le_sub_one_of_lt lt⟩ :=
  .back lt (.none _)

lemma one_front (lt : r.front < r.back) :
    r.Takes [(.front, r.front)] ⟨r.front + 1, r.back, lt⟩ :=
  .front lt (.none _)

lemma trans (first : r.Takes path r') (next : r'.Takes later r'') :
    r.Takes (path ++ later) r'' := by
  induction first with
  | none r => exact next
  | back lt rest ih => exact .back lt (ih next)
  | front lt rest ih => exact .front lt (ih next)

/-- The range only shrinks. -/
lemma back_le (h : r.Takes path r') : r'.back ≤ r.back := by
  induction h with
  | none r => exact le_rfl
  | @back r r' later lt rest ih => exact ih.trans (Nat.sub_le r.back 1)
  | front lt rest ih => exact ih

/-- What is taken lies in the range. -/
lemma lt_back (h : r.Takes path r') : ∀ taken ∈ path, taken.2 < r.back := by
  induction h with
  | none r => exact fun _ member => nomatch member
  | @back r r' later lt rest ih =>
      rintro taken (_ | ⟨_, member⟩)
      · exact Nat.sub_one_lt_of_lt lt
      · exact (ih taken member).trans_le (Nat.sub_le r.back 1)
  | @front r r' later lt rest ih =>
      rintro taken (_ | ⟨_, member⟩)
      · exact lt
      · exact ih taken member

end Reversed.Takes

/-! ## Walks that ask for what they take -/

/-- The recorded reads at positions. -/
def readsOf (path : List (Side × Nat)) : List Event :=
  path.map fun taken => .call (.get taken.2)

lemma calls_of_readsOf {x : Traced β} {path : List (Side × Nat)} (reads : x.trace = readsOf path) :
    x.calls = path.map fun taken => .get taken.2 := by
  rw [Traced.calls, reads, readsOf, List.filterMap_map]
  show path.filterMap (some ∘ fun taken => Call.get taken.2) = _
  rw [List.filterMap_eq_map]

namespace Walk

/-- On every range, the walk reads the positions that it takes, each once, and does nothing
else. -/
def Tracks (w : Walk β) : Prop :=
  ∀ r : Reversed, ∃ path, (w r).1.trace = readsOf path ∧ r.Takes path (w r).2

lemma tracks_pure (b : β) : (pure b : Walk β).Tracks :=
  fun r => ⟨[], rfl, .none r⟩

/-- After a value the second walk goes on from the range that the first has left.  After a fault
that range stays. -/
lemma Tracks.bind {w : Walk β} {f : β → Walk γ} (first : w.Tracks)
    (later : ∀ b, (f b).Tracks) : (w >>= f).Tracks := by
  intro r
  obtain ⟨path, reads, takes⟩ := first r
  show ∃ path, (Walk.bind w f r).1.trace = _ ∧ r.Takes path (Walk.bind w f r).2
  rw [Walk.bind]
  cases value : (w r).1.outcome with
  | error e => exact ⟨path, reads, takes⟩
  | ok b =>
      obtain ⟨path', reads', takes'⟩ := later b (w r).2
      refine ⟨path ++ path', ?_, takes.trans takes'⟩
      rw [readsOf, List.map_append, ← readsOf, ← readsOf, ← reads, ← reads']
      rfl

lemma Tracks.map {w : Walk β} (h : w.Tracks) (f : β → γ) :
    (do return f (← w) : Walk γ).Tracks :=
  h.bind fun b => tracks_pure (f b)

/-! Reads are recorded, once each; they may end with a fault. -/

variable {get : Nat → Traced α} (recorded : ∀ place, (get place).trace = [.call (.get place)])

include recorded

lemma tracks_pull (side : Side) : (pull get side).Tracks := by
  have alone (place : Nat) : (some <$> get place).trace = [.call (.get place)] := by
    rw [Traced.trace_map, recorded]
  intro r
  by_cases used : r.front = r.back
  · rw [pull_of_used get side used]
    exact ⟨[], rfl, .none r⟩
  · have lt : r.front < r.back := Nat.lt_of_le_of_ne r.front_le_back used
    cases side with
    | back =>
        rw [pull_back get lt]
        exact ⟨[(.back, r.back - 1)], alone _, .one_back lt⟩
    | front =>
        rw [pull_front get lt]
        exact ⟨[(.front, r.front)], alone _, .one_front lt⟩

lemma tracks_nth (side : Side) (k : Nat) : (nth get side k).Tracks := by
  induction k with
  | zero => exact tracks_pull recorded side
  | succ k ih =>
      refine (tracks_pull recorded side).bind fun taken => ?_
      cases taken with
      | none => exact tracks_pure none
      | some a => exact ih

lemma tracks_drainUpTo (side : Side) (fuel : Nat) : (drainUpTo get side fuel).Tracks := by
  induction fuel with
  | zero => exact tracks_pure []
  | succ fuel ih =>
      refine (tracks_pull recorded side).bind fun taken => ?_
      cases taken with
      | none => exact tracks_pure []
      | some a => exact ih.map (a :: ·)

lemma tracks_drain (side : Side) : (drain get side).Tracks :=
  fun r => tracks_drainUpTo recorded side r.len r

end Walk

/-! ## Moves and runs -/

namespace Move

variable {get : Nat → Traced α} (recorded : ∀ place, (get place).trace = [.call (.get place)])

include recorded

/-- Every move reads what it takes. -/
lemma tracks_run (m : Move) : (m.run get).Tracks := by
  cases m with
  | next => exact (Walk.tracks_pull recorded .back).map _
  | nextBack => exact (Walk.tracks_pull recorded .front).map _
  | nth k => exact (Walk.tracks_nth recorded .back k).map _
  | nthBack k => exact (Walk.tracks_nth recorded .front k).map _
  | len =>
      intro r
      rw [run_len]
      exact ⟨[], rfl, .none r⟩
  | sizeHint =>
      intro r
      rw [run_sizeHint]
      exact ⟨[], rfl, .none r⟩
  | rest => exact (Walk.tracks_drain recorded .back).map _
  | restBack => exact (Walk.tracks_drain recorded .front).map _
  | count => exact (Walk.tracks_drain recorded .back).map _
  | last => exact (Walk.tracks_drain recorded .back).map _

/-- Hence so does every list of moves, faults in between included. -/
lemma runAll_takes (moves : List Move) : ∀ r : Reversed, ∃ path,
    (runAll get moves r).trace = readsOf path ∧ r.Takes path (rangeAfter get moves r) := by
  induction moves with
  | nil => exact fun r => ⟨[], rfl, .none r⟩
  | cons m later ih =>
      intro r
      obtain ⟨path, reads, takes⟩ := tracks_run recorded m r
      obtain ⟨path', reads', takes'⟩ := ih (m.run get r).2
      refine ⟨path ++ path', ?_, takes.trans takes'⟩
      rw [readsOf, List.map_append, ← readsOf, ← readsOf, ← reads, ← reads']
      show (m.run get r).1.trace ++ Traced.trace (_ <$> runAll get later (m.run get r).2) = _
      rw [Traced.trace_map]

end Move

end SequenceKit
