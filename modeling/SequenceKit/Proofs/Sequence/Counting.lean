import SequenceKit.Proofs.Sequence.Contents

/-!
# Counting in machine words

A count is a sum of ones and nothings, and every partial sum has to be a machine word.  Nothing
bounds the number of elements that a cursor runs over, so a value can be met once too often.

**The answer.**  `Word.total` says what such a sum comes to: the number, if it is a word.

**The place of the fault.**  A pass that meets too many hits stops at one of them, the first that
has `Word.largest` others before it; `exists_overflowing` finds it.

* `Cursor.Yields.outcome_count` — what a whole pass counts.
* `Cursor.count_ofList`, `Cursor.count_ofList_overflowing` — how far it advances.
* `crowd` — a sequence whose cursor yields one element more than a word can count.
-/

namespace SequenceKit

variable {α : Type}

/-- Where more than `n` elements pass a test, one of them has just `n` before it. -/
lemma exists_overflowing {p : α → Bool} {as : List α} {n : Nat} (many : n < as.countP p) :
    ∃ before a later, as = before ++ a :: later ∧ before.countP p = n ∧ p a = true := by
  induction as generalizing n with
  | nil => exact absurd many (Nat.not_lt_zero n)
  | cons a rest ih =>
      by_cases hit : p a = true
      · rw [List.countP_cons_of_pos hit] at many
        cases n with
        | zero => exact ⟨[], a, rest, rfl, rfl, hit⟩
        | succ n =>
            obtain ⟨before, b, later, rfl, number, hit'⟩ := ih (Nat.lt_of_succ_lt_succ many)
            exact ⟨a :: before, b, later, rfl, by rw [List.countP_cons_of_pos hit, number], hit'⟩
      · rw [List.countP_cons_of_neg hit] at many
        obtain ⟨before, b, later, rfl, number, hit'⟩ := ih many
        exact ⟨a :: before, b, later, rfl, by rw [List.countP_cons_of_neg hit, number], hit'⟩

namespace Cursor

/-- One element more adds one or nothing. -/
lemma add_countP_cons (p : α → Bool) (n : Nat) (a : α) (rest : List α) :
    n + (a :: rest).countP p = n + (if p a then 1 else 0) + rest.countP p := by
  rw [List.countP_cons]
  omega

/-! ## Answers -/

/-- Once a number is a word, what comes to it is told by the sum. -/
lemma Yields.outcome_countFrom {c : Cursor α} {as : List α} (h : c.Yields as) (p : α → Bool) :
    ∀ n ≤ Word.largest,
      (c.countFrom p n).outcome = (Word.total (n + as.countP p)).outcome := by
  induction h with
  | done marks =>
      intro n fits
      rw [List.countP_nil, Nat.add_zero, Word.total_of_le fits]
      rfl
  | @yield marks a rest as later ih =>
      intro n _
      rw [countFrom, Traced.outcome_after, add_countP_cons]
      by_cases fits : n + (if p a then 1 else 0) ≤ Word.largest
      · rw [Word.add_of_le fits, pure_bind, ih _ fits]
      · have large : Word.largest < n + (if p a then 1 else 0) := Nat.lt_of_not_le fits
        rw [Word.add_of_gt large, Word.total_of_gt (Nat.lt_add_right _ large)]
        rfl

/-- A whole pass counts the hits, if their number is a word. -/
lemma Yields.outcome_count {c : Cursor α} {as : List α} (h : c.Yields as) (p : α → Bool) :
    (c.count p).outcome = (Word.total (as.countP p)).outcome := by
  rw [count, h.outcome_countFrom p 0 (Nat.zero_le _), Nat.zero_add]

/-! ## Advances -/

section Advances

variable (e : Event) (p : α → Bool)

lemma countFrom_ofList (as : List α) : ∀ n, n + as.countP p ≤ Word.largest →
    (ofList [e] as).countFrom p n =
      ⟨List.replicate (as.length + 1) e, .ok (n + as.countP p)⟩ := by
  induction as with
  | nil => intro n _; rfl
  | cons a rest ih =>
      intro n fits
      rw [add_countP_cons] at fits ⊢
      rw [ofList, countFrom, Word.add_of_le (Nat.le_of_add_right_le fits), pure_bind, ih _ fits]
      rfl

/-- A pass that can tell its number advances once more than there are elements. -/
lemma count_ofList {as : List α} (fits : as.countP p ≤ Word.largest) :
    (ofList [e] as).count p = ⟨List.replicate (as.length + 1) e, .ok (as.countP p)⟩ := by
  rw [count, countFrom_ofList e p as 0 (by rwa [Nat.zero_add]), Nat.zero_add]

lemma countFrom_ofList_overflowing {a : α} (hit : p a = true) (later : List α)
    (before : List α) : ∀ n, n + before.countP p = Word.largest →
    (ofList [e] (before ++ a :: later)).countFrom p n =
      ⟨List.replicate (before.length + 1) e, .error .addOverflow⟩ := by
  induction before with
  | nil =>
      intro n full
      have large : Word.largest < n + 1 := (show n = Word.largest from full) ▸ Nat.lt_succ_self n
      rw [List.nil_append, ofList, countFrom, if_pos hit, Word.add_of_gt large]
      rfl
  | cons b before ih =>
      intro n full
      rw [add_countP_cons] at full
      have fits := Nat.le_of_add_right_le (Nat.le_of_eq full)
      rw [List.cons_append, ofList, countFrom, Word.add_of_le fits, pure_bind, ih _ full]
      rfl

/-- A pass that meets too many hits stops at the first of them that is one too many. -/
lemma count_ofList_overflowing {a : α} (hit : p a = true) (later : List α) {before : List α}
    (full : before.countP p = Word.largest) :
    (ofList [e] (before ++ a :: later)).count p =
      ⟨List.replicate (before.length + 1) e, .error .addOverflow⟩ :=
  countFrom_ofList_overflowing e p hit later before 0 (by rwa [Nat.zero_add])

end Advances

lemma yields_ofPositions (element : Nat → α) (count : Nat) : ∀ start,
    (ofPositions element start count).Yields ((List.range' start count).map element) := by
  induction count with
  | zero => exact fun _ => .done []
  | succ count ih => exact fun start => .yield [] (element start) (ih (start + 1))

end Cursor

/-! ## Too many hits -/

/-- A sequence that tells no size, with a cursor over so many sevens that no word can count
them. -/
def crowd : Access Nat where
  size := pure 0
  iter := pure (.ofPositions (fun _ => 7) 0 (Word.largest + 1))
  get _ := Traced.stop .dequeOutOfBounds

/-- The elements of the crowd. -/
def sevens : List Nat :=
  List.replicate (Word.largest + 1) 7

lemma iter_crowd : ∃ c, crowd.iter.outcome = .ok c ∧ c.Yields sevens := by
  refine ⟨_, rfl, ?_⟩
  have yields := Cursor.yields_ofPositions (fun _ => 7) (Word.largest + 1) 0
  rwa [List.map_const', List.length_range'] at yields

lemma countP_sevens : sevens.countP (· == 7) = Word.largest + 1 :=
  List.countP_replicate.trans (if_pos rfl)

end SequenceKit
