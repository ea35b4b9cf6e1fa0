import Mathlib.Tactic.Lemma
import SequenceKit.Item.Reader
import SequenceKit.Proofs.Grammar.Passage

/-!
# Lists that are read with their commas

Parameters and predicates are kept with a mark for the comma behind each of them, so a list could
hold an entry without a comma in its middle.  No declaration is read as such a list.

**Answers of readers.**  `Answers` says that a reader answers with nothing but what has a
property, whatever trees come next; it is `Leads` without a word about what is left.  A property
of the whole is shown from properties of the parts: there is one lemma for one reader after another
and one, `answers_looping`, for repetition, where an invariant is kept as long as the loop goes on.

**Commas.**  `Punctuated` says that each entry with another one behind it has a comma.  The loops
that read parameters and predicates keep a stronger invariant: while they go on, every entry has
one.

* `answers_angledParameters`, `answers_whereClause` — both kinds of lists are punctuated.
* **`Item.punctuated_of_ofTrees?`** — hence the lists of every declaration are.
-/

namespace SequenceKit.Grammar

open SequenceKit.Source SequenceKit.Generics

variable {α β : Type}

/-! ## Answers -/

/-- Whatever comes next, what the reader answers with has the property. -/
def Answers (p : Reader α) (P : α → Prop) : Prop :=
  ∀ ⦃ts : Trees⦄ ⦃a : α⦄ ⦃rest : Trees⦄, p.run ts = some (a, rest) → P a

section Laws

variable {p : Reader α} {f : α → Reader β} {P : α → Prop} {Q : β → Prop}

/-- What a reader leaves does not matter here. -/
lemma answers_iff_leads : Answers p P ↔ ∀ ts, Leads p ts fun a _ => P a :=
  Iff.rfl

lemma answers_any (p : Reader α) : Answers p fun _ => True :=
  fun _ _ _ _ => trivial

lemma answers_pure {a : α} (h : P a) : Answers (pure a) P :=
  answers_iff_leads.mpr fun _ => leads_pure h

lemma answers_failure : Answers failure P :=
  answers_iff_leads.mpr fun _ => leads_failure

/-- One reader after another. -/
lemma Answers.bind (first : Answers p P) (later : ∀ a, P a → Answers (f a) Q) :
    Answers (p >>= f) Q := by
  refine answers_iff_leads.mpr fun ts => Leads.bind ?_
  exact (answers_iff_leads.mp first ts).mono fun a rest holds => @later a holds rest

/-- One reader after another, where nothing has to be known of the first. -/
lemma answers_then (later : ∀ a, Answers (f a) Q) : Answers (p >>= f) Q :=
  (answers_any p).bind fun a _ => later a

lemma answers_ite {c : Prop} [Decidable c] {p q : Reader α} (yes : c → Answers p P)
    (no : ¬ c → Answers q P) : Answers (if c then p else q) P :=
  answers_iff_leads.mpr fun ts => leads_ite (fun h => @yes h ts) fun h => @no h ts

/-- A step that keeps an invariant when it asks for more, and gives the property when it does
not. -/
lemma answers_looping {σ : Type} {step : σ → Reader (σ × Bool)} {I P : σ → Prop}
    (kept : ∀ s, I s → Answers (step s) fun r => if r.2 then I r.1 else P r.1) {s : σ}
    (start : I s) : Answers (looping step s) P :=
  answers_iff_leads.mpr fun _ =>
    leads_looping (I := fun s _ => I s) (P := fun s _ => P s)
      (fun s ts holds => @kept s holds ts) start

end Laws

/-! ## Commas -/

/-- Each entry with another one behind it has a comma. -/
def Punctuated (comma : α → Bool) (entries : List α) : Prop :=
  entries.Pairwise fun a _ => comma a = true

section Commas

variable {comma : α → Bool} {entries : List α}

lemma Punctuated.of_all (all : ∀ a ∈ entries, comma a = true) : Punctuated comma entries :=
  List.pairwise_of_forall_mem_list fun a member _ _ => all a member

/-- The last entry may go without. -/
lemma Punctuated.concat (all : ∀ a ∈ entries, comma a = true) (last : α) :
    Punctuated comma (entries ++ [last]) :=
  List.pairwise_append.mpr
    ⟨of_all all, List.pairwise_singleton _ _, fun a member _ _ => all a member⟩

lemma forall_mem_concat {last : α} (all : ∀ a ∈ entries, comma a = true)
    (has_comma : comma last = true) : ∀ a ∈ entries ++ [last], comma a = true := by
  intro a member
  rcases List.mem_append.mp member with before | here
  · exact all a before
  · rw [List.mem_singleton.mp here]
    exact has_comma

end Commas

/-! ## Lists of a declaration -/

/-- All parameters but the last have a comma. -/
lemma answers_angledParameters (g : Rules) (nameless : Bool) :
    Answers (angledParameters g nameless) (Punctuated Parameter.comma) := by
  refine answers_then fun _ => Answers.bind ?_ fun parameters punctuated =>
    answers_then fun _ => answers_pure punctuated
  -- the loop goes on behind a comma only
  refine answers_looping (I := fun parameters => ∀ p ∈ parameters, p.comma = true) ?_
    (fun p member => nomatch member)
  intro parameters all
  refine answers_then fun _ => answers_ite (fun _ => answers_pure (.of_all all)) fun _ => ?_
  refine answers_then fun p => answers_then fun _ => ?_
  refine answers_ite (fun _ => answers_pure (.concat all p)) fun _ => answers_then fun _ => ?_
  exact answers_pure (forall_mem_concat all rfl)

lemma answers_parameterList (g : Rules) :
    Answers (parameterList g) (Punctuated Parameter.comma) :=
  answers_then fun _ => answers_ite (fun _ => answers_angledParameters g true) fun _ =>
    answers_pure .nil

/-- All predicates but the last have a comma. -/
lemma answers_whereClause (g : Rules) :
    Answers (whereClause g) (Punctuated Predicate.comma) := by
  refine answers_then fun _ => answers_ite (fun _ => answers_pure .nil) fun _ => ?_
  refine answers_then fun _ => answers_then fun _ => answers_ite (fun _ => answers_failure)
    fun _ => ?_
  refine answers_looping (I := fun predicates => ∀ p ∈ predicates, p.comma = true) ?_
    (fun p member => nomatch member)
  intro predicates all
  refine answers_then fun _ => answers_ite (fun _ => answers_pure (.of_all all)) fun _ => ?_
  refine answers_then fun p => answers_then fun _ => ?_
  refine answers_ite (fun _ => answers_then fun _ => ?_) fun _ => answers_pure (.concat all p)
  exact answers_pure (forall_mem_concat all rfl)

/-! ## Declarations -/

/-- Whichever where clause counts, the one before a body or the one behind it. -/
lemma answers_structureBody (g : Rules) :
    Answers (structureBody g) fun r => Punctuated Predicate.comma r.1 := by
  refine answers_then fun _ => (answers_whereClause g).bind fun early punctuated => ?_
  refine answers_then fun _ => answers_ite (fun _ => ?_) fun _ => answers_ite (fun _ => ?_)
    fun _ => ?_
  · refine answers_then fun _ => (answers_whereClause g).bind fun late punctuated => ?_
    exact answers_then fun _ => answers_pure punctuated
  · exact answers_then fun _ => answers_pure punctuated
  · exact answers_then fun _ => answers_pure punctuated

lemma answers_enumerationBody (g : Rules) :
    Answers (enumerationBody g) fun r => Punctuated Predicate.comma r.1 :=
  (answers_whereClause g).bind fun _ punctuated => answers_then fun _ => answers_pure punctuated

lemma answers_unionBody (g : Rules) :
    Answers (unionBody g) fun r => Punctuated Predicate.comma r.1 :=
  (answers_whereClause g).bind fun _ punctuated => answers_then fun _ => answers_pure punctuated

end SequenceKit.Grammar

namespace SequenceKit

open SequenceKit.Source SequenceKit.Grammar SequenceKit.Generics

/-- Both lists of a declaration have their commas. -/
structure Generics.WellPunctuated (generics : Generics) : Prop where
  parameters : Punctuated Parameter.comma generics.parameters
  predicates : Punctuated Predicate.comma generics.predicates

lemma Grammar.answers_item (g : Rules) :
    Answers (item g) fun found => found.generics.WellPunctuated := by
  refine answers_then fun _ => answers_then fun _ => answers_then fun _ => answers_then fun _ => ?_
  refine answers_then fun _ => answers_then fun _ => answers_then fun _ => ?_
  refine (answers_parameterList g).bind fun parameters listed => ?_
  refine answers_ite (fun _ => ?_) fun _ => answers_ite (fun _ => ?_) fun _ => ?_
  · exact (answers_structureBody g).bind fun r clause => answers_pure ⟨listed, clause⟩
  · exact (answers_enumerationBody g).bind fun r clause => answers_pure ⟨listed, clause⟩
  · exact (answers_unionBody g).bind fun r clause => answers_pure ⟨listed, clause⟩

/-- Whoever reads a whole declaration reads lists with their commas. -/
lemma Item.punctuated_of_ofTrees? {declaration : Trees} {item : Item}
    (reads : ofTrees? declaration = some item) : item.generics.WellPunctuated := by
  rw [ofTrees?] at reads
  split at reads
  · next found run =>
      cases reads
      exact answers_item _ run
  · cases reads

end SequenceKit
