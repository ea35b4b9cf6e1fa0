import Mathlib.Tactic.Lemma
import SequenceKit.Grammar.Reader

/-!
# What readers leave of what comes next

A reader answers with what it has found and leaves the rest.  What can be said of the two in
advance is shown from what is known of the parts of the reader.

**One run.**  `Leads` says what holds of the answer and of what is left when a reader is run on
given trees.  There is one lemma for each way of composing readers and for each reader of a single
tree.

**Views.**  Often only some aspect of the trees matters, and readers differ in what they do to it.
A view is such an aspect, any function of trees.  `Carries` says that what one view shows of the
trees before a reader another one shows of what is left.  A reader `Keeps` a view that does not
see what it takes.  Readers in a row are then put together without a word about the trees between
them.

* `Leads.bind`, `leads_looping` — readers in a row and in a loop.
* `Carries.bind`, `keeps_looping` — the same for views.
* `carries_one`, `carries_mark_one`, `carries_inside` — single trees.
-/

namespace SequenceKit.Grammar

open SequenceKit.Source

variable {α β γ σ : Type}

/-! ## One run -/

/-- If the reader does not fail on `ts`, its answer and what is left have the property. -/
def Leads (p : Reader α) (ts : Trees) (P : α → Trees → Prop) : Prop :=
  ∀ ⦃a : α⦄ ⦃rest : Trees⦄, p.run ts = some (a, rest) → P a rest

section Leads

variable {p q : Reader α} {f : α → Reader β} {ts : Trees} {P P' : α → Trees → Prop}
  {Q : β → Trees → Prop}

lemma leads_pure {a : α} (h : P a ts) : Leads (pure a) ts P := by
  intro b rest run
  cases run
  exact h

lemma leads_failure : Leads failure ts P := by
  intro a rest run
  cases run

/-- One reader after another. -/
lemma Leads.bind (h : Leads p ts fun a rest => Leads (f a) rest Q) : Leads (p >>= f) ts Q := by
  intro b rest run
  rw [StateT.run_bind] at run
  obtain ⟨⟨a, ts'⟩, first, later⟩ := Option.bind_eq_some_iff.mp run
  exact h first later

/-- One reader after another, where nothing has to be known of the first. -/
lemma leads_then (later : ∀ a rest, Leads (f a) rest Q) : Leads (p >>= f) ts Q :=
  Leads.bind fun a rest _ => later a rest

lemma Leads.mono (h : Leads p ts P) (weaker : ∀ a rest, P a rest → P' a rest) :
    Leads p ts P' :=
  fun a rest run => weaker a rest (h run)

lemma leads_ite {c : Prop} [Decidable c] (yes : c → Leads p ts P) (no : ¬ c → Leads q ts P) :
    Leads (if c then p else q) ts P := by
  by_cases h : c
  · rw [if_pos h]
    exact yes h
  · rw [if_neg h]
    exact no h

lemma leads_get {P : Trees → Trees → Prop} (h : P ts ts) : Leads get ts P := by
  intro a rest run
  cases run
  exact h

lemma leads_peek {test : Trees → Bool} {P : Bool → Trees → Prop} (h : P (test ts) ts) :
    Leads (peek test) ts P := by
  intro a rest run
  cases run
  exact h

lemma leads_require {test : Trees → Bool} {P : Unit → Trees → Prop}
    (h : test ts = true → P () ts) : Leads (require test) ts P := by
  refine (leads_peek ?_).bind
  refine leads_ite (fun _ => leads_failure) fun holds => leads_pure (h ?_)
  simpa using holds

lemma leads_next {P : Tree → Trees → Prop} (h : ∀ t rest, ts = t :: rest → P t rest) :
    Leads next ts P := by
  intro a rest run
  cases ts with
  | nil => cases run
  | cons t more =>
      cases run
      exact h a rest rfl

lemma leads_set {more : Trees} {P : PUnit → Trees → Prop} (h : P ⟨⟩ more) :
    Leads (set more) ts P := by
  intro a rest run
  cases run
  exact h

/-- A punctuation mark is what comes next, and as many trees go as it has characters. -/
lemma leads_mark (s : String) :
    Leads (mark s) ts fun _ rest => startsMark s ts = true ∧ rest = ts.drop s.length := by
  refine (leads_require fun starts => ?_).bind
  refine (leads_get (Leads.bind ?_)).bind
  exact leads_set (leads_pure ⟨starts, rfl⟩)

lemma leads_mark_one {s : String} {c : Char} (chars : s.toList = [c]) :
    Leads (mark s) ts fun _ rest => ∃ joint, ts = .mark c joint :: rest := by
  refine (leads_mark s).mono ?_
  rintro - rest ⟨starts, rfl⟩
  rw [startsMark, chars] at starts
  rw [← String.length_toList, chars]
  match ts, starts with
  | .mark d joint :: more, starts =>
      obtain rfl : c = d := beq_iff_eq.mp starts
      exact ⟨joint, rfl⟩

lemma leads_mark_two {s : String} {c d : Char} (chars : s.toList = [c, d]) :
    Leads (mark s) ts fun _ rest => ∃ joint, ts = .mark c true :: .mark d joint :: rest := by
  refine (leads_mark s).mono ?_
  rintro - rest ⟨starts, rfl⟩
  rw [startsMark, chars] at starts
  rw [← String.length_toList, chars]
  match ts, starts with
  | .mark c' glued :: more, starts =>
      simp only [startsMarks, Bool.and_eq_true, beq_iff_eq] at starts
      obtain ⟨⟨rfl, rfl⟩, starts⟩ := starts
      match more, starts with
      | .mark d' joint :: more, starts =>
          obtain rfl : d = d' := beq_iff_eq.mp starts
          exact ⟨joint, rfl⟩

/-- The inside of a group, of which nothing is left, and what is left behind the group. -/
lemma leads_inside {d : Delimiter} {P : Trees → α → Prop}
    (h : ∀ trees, Leads p trees fun a rest => rest = [] → P trees a) :
    Leads (inside d p) ts fun a rest => ∃ trees, ts = .group d trees :: rest ∧ P trees a := by
  refine (leads_next fun t rest first => ?_).bind
  split
  · next d' trees =>
      refine leads_ite (fun same => ?_) fun _ => leads_failure
      obtain rfl : d = d' := beq_iff_eq.mp same
      split
      · next a run => exact leads_pure ⟨trees, first, h trees run rfl⟩
      · exact leads_failure
  · exact leads_failure

section Loops

variable {step : σ → Reader (σ × Bool)} {I : σ → Trees → Prop} {P : σ → Trees → Prop}
  (kept : ∀ s ts, I s ts → Leads (step s) ts fun r rest => if r.2 then I r.1 rest else P r.1 rest)

include kept

/-- A step that keeps an invariant when it asks for more, and gives the property when it does
not. -/
lemma leads_iterate (fuel : Nat) {s : σ} (start : I s ts) : Leads (iterate step fuel s) ts P := by
  induction fuel generalizing s ts with
  | zero => exact leads_failure
  | succ fuel ih =>
      refine ((kept s ts start).mono ?_).bind
      rintro ⟨s', more⟩ rest after
      cases more with
      | true => exact ih after
      | false => exact leads_pure after

lemma leads_looping {s : σ} (start : I s ts) : Leads (looping step s) ts P :=
  (leads_get (leads_iterate kept _ start)).bind

end Loops

end Leads

/-! ## Views -/

/-- What `v` shows of the trees that come next, `w` shows of what the reader leaves. -/
def Carries (p : Reader α) (v w : Trees → γ) : Prop :=
  ∀ ts, Leads p ts fun _ rest => w rest = v ts

/-- The reader takes nothing that the view sees. -/
abbrev Keeps (p : Reader α) (v : Trees → γ) : Prop :=
  Carries p v v

section Carries

variable {p q : Reader α} {f : α → Reader β} {f' : Tree → Reader β} {u v w : Trees → γ}

lemma keeps_pure (a : α) : Keeps (pure a) v :=
  fun _ => leads_pure rfl

lemma carries_failure : Carries (failure : Reader α) v w :=
  fun _ => leads_failure

/-- One reader after another. -/
lemma Carries.bind (first : Carries p u v) (later : ∀ a, Carries (f a) v w) :
    Carries (p >>= f) u w := by
  intro ts
  refine ((first ts).mono fun a rest seen => ?_).bind
  exact (later a rest).mono fun _ _ seen' => seen'.trans seen

/-- A reader whose answer is changed. -/
lemma Carries.returning (first : Carries p u v) (g : α → β) :
    Carries (p >>= fun a => pure (g a)) u v :=
  first.bind fun a => keeps_pure (g a)

lemma carries_ite {c : Prop} [Decidable c] (yes : Carries p v w) (no : Carries q v w) :
    Carries (if c then p else q) v w :=
  fun ts => leads_ite (fun _ => yes ts) fun _ => no ts

/-- A choice, and one reader behind both alternatives. -/
lemma carries_ite_then {c : Prop} [Decidable c] (yes : Carries p u v) (no : Carries q u v)
    (later : ∀ a, Carries (f a) v w) : Carries (if c then p >>= f else q >>= f) u w :=
  carries_ite (yes.bind later) (no.bind later)

/-- A reader that goes on only where a condition does not hold. -/
lemma carries_unless {c : Prop} [Decidable c] {f : Unit → Reader β} (later : Carries (f ()) v w) :
    Carries (if c then failure >>= f else f ()) v w :=
  carries_ite (carries_failure.bind fun _ => later) later

lemma keeps_get : Keeps get v :=
  fun _ => leads_get rfl

lemma keeps_peek (test : Trees → Bool) : Keeps (peek test) v :=
  fun _ => leads_peek rfl

lemma keeps_since (start : Trees) : Keeps (since start) v :=
  keeps_get.returning _

/-! ### Single trees -/

/-- The next tree where it passes a test. -/
lemma leads_next_of {test : Trees → Bool} {ts : Trees} (passes : test ts = true)
    (h : ∀ t rest, test (t :: rest) = true → v rest = u (t :: rest))
    (later : ∀ t, Carries (f' t) v w) :
    Leads (next >>= f') ts fun _ rest => w rest = u ts := by
  refine (leads_next fun t rest first => ?_).bind
  subst first
  exact (later t rest).mono fun _ _ seen => seen.trans (h t rest passes)

/-- The next tree, which has to pass a test. -/
lemma carries_require_next {test : Trees → Bool}
    (h : ∀ t rest, test (t :: rest) = true → v rest = u (t :: rest))
    (later : ∀ t, Carries (f' t) v w) :
    Carries (require test >>= fun _ => next >>= f') u w := by
  intro ts
  exact (leads_require fun passes => leads_next_of passes h later).bind

lemma carries_one {test : Trees → Bool}
    (h : ∀ t rest, test (t :: rest) = true → w rest = v (t :: rest)) :
    Carries (one test) v w :=
  carries_require_next h fun _ => keeps_pure _

lemma carries_word {text : String} (h : ∀ rest, w rest = v (.word text :: rest)) :
    Carries (word text) v w := by
  refine carries_one fun t rest starts => ?_
  cases t with
  | word text' =>
      obtain rfl : text' = text := beq_iff_eq.mp starts
      exact h rest
  | _ => cases starts

/-- The next tree behind a test that it passes, or something else. -/
lemma carries_next_or {test : Trees → Bool} {q : Reader β}
    (h : ∀ t rest, test (t :: rest) = true → v rest = u (t :: rest))
    (later : ∀ t, Carries (f' t) v w) (other : Carries q u w) :
    Carries (do if ← peek test then f' (← next) else q) u w := by
  intro ts
  refine (leads_peek ?_).bind
  exact leads_ite (fun passes => leads_next_of passes h later) fun _ => other ts

/-- The next tree, if it passes a test. -/
lemma keeps_optional {test : Trees → Bool}
    (h : ∀ t rest, test (t :: rest) = true → v rest = v (t :: rest)) :
    Keeps (optional test) v :=
  carries_next_or h (fun _ => keeps_pure _) (keeps_pure [])

lemma carries_mark_one {s : String} {c : Char} (chars : s.toList = [c])
    (h : ∀ joint rest, w rest = v (.mark c joint :: rest)) : Carries (mark s) v w := by
  intro ts
  refine (leads_mark_one chars).mono ?_
  rintro - rest ⟨joint, rfl⟩
  exact h joint rest

lemma carries_mark_two {s : String} {c d : Char} (chars : s.toList = [c, d])
    (h : ∀ joint rest, w rest = v (.mark c true :: .mark d joint :: rest)) :
    Carries (mark s) v w := by
  intro ts
  refine (leads_mark_two chars).mono ?_
  rintro - rest ⟨joint, rfl⟩
  exact h joint rest

lemma keeps_optionalMark {s : String} (taken : Keeps (mark s) v) : Keeps (optionalMark s) v :=
  (keeps_peek _).bind fun _ => carries_ite taken (keeps_pure [])

/-- A group, whatever is read of its inside. -/
lemma carries_inside {d : Delimiter} (h : ∀ trees rest, w rest = v (.group d trees :: rest)) :
    Carries (inside d p) v w := by
  intro ts
  refine (leads_inside (P := fun _ _ => True) fun _ _ _ _ _ => trivial).mono ?_
  rintro a rest ⟨trees, rfl, -⟩
  exact h trees rest

lemma carries_within {d : Delimiter} {p : Reader Trees}
    (h : ∀ trees rest, w rest = v (.group d trees :: rest)) : Carries (within d p) v w :=
  (carries_inside h).returning _

/-! ### Loops -/

lemma keeps_looping {step : σ → Reader (σ × Bool)} (h : ∀ s, Keeps (step s) v) (s : σ) :
    Keeps (looping step s) v := by
  intro ts
  refine leads_looping (I := fun _ rest => v rest = v ts) (fun s' ts' seen => ?_) rfl
  refine (h s' ts').mono fun r rest seen' => ?_
  rw [ite_self]
  exact seen'.trans seen

lemma keeps_gather {step : Reader (Trees × Bool)} (h : Keeps step v) : Keeps (gather step) v :=
  keeps_looping (fun _ => h.returning _) []

end Carries

end SequenceKit.Grammar
