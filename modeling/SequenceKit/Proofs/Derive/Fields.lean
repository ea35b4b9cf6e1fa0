import SequenceKit.Item.Reader
import SequenceKit.Proofs.Grammar.AngleBrackets

/-!
# Counting the fields of a declaration

Here the fields of a declaration are counted without the grammar: from its tokens, by the commas
between the fields.  Parentheses, brackets and braces hide what they hold, so only angle brackets
have to be minded, in which a comma separates no fields, and arrows, whose second character closes
no bracket.

**The count.**  `behindOuter` finds what stands behind each comma outside all angle brackets, and
with another character where a list of parameters ends.  `unnamedCount?` counts the fields of a
declaration with it.

**The grammar counts the same.**  A field takes nothing that `behindOuter` sees, since types keep
the count of brackets (`keeps_typeRule`).  The loop over the fields keeps the sum of the fields
that are read and the entries that are still to come.

* `unnamedCount?` — the number of unnamed fields of a declaration.
* `leads_unnamedFields`, `leads_item` — the grammar reads as many.
* **`Item.unnamedCount?_of_ofTrees?`** — and so does whoever reads a whole declaration.
-/

namespace SequenceKit

/-- The number of fields of a body with unnamed fields. -/
def Item.Body.unnamedCount? : Item.Body → Option Nat
  | .tuple fields => some fields.length
  | _ => none

end SequenceKit

namespace SequenceKit.Grammar

open SequenceKit.Source SequenceKit.Generics

/-! ## Outside all angle brackets -/

/-- How many angle brackets are open behind a punctuation character. -/
def depthBehind (c : Char) (depth : Nat) : Nat :=
  if c = '<' then depth + 1 else if c = '>' then depth - 1 else depth

/-- What stands behind each character `stop` that is in no angle brackets, where `depth` of them
are open.  The second character of an arrow closes none. -/
def behindOuter (stop : Char) : (depth : Nat) → Trees → List Trees
  | _, [] => []
  | depth, .mark '-' _ :: .mark '>' _ :: rest => behindOuter stop depth rest
  | depth, .mark c _ :: rest =>
      if depth = 0 ∧ c = stop then rest :: behindOuter stop 0 rest
      else behindOuter stop (depthBehind c depth) rest
  | depth, _ :: rest => behindOuter stop depth rest

lemma behindOuter_mark {stop c : Char} {depth : Nat} {joint : Bool} {rest : Trees}
    (no_arrow : c ≠ '-') (no_stop : depth ≠ 0 ∨ c ≠ stop) :
    behindOuter stop depth (.mark c joint :: rest) =
      behindOuter stop (depthBehind c depth) rest := by
  rw [behindOuter, if_neg]
  · rintro ⟨rfl, rfl⟩
    rcases no_stop with h | h <;> exact h rfl
  · intro joint' joint'' rest' is_arrow
    exact absurd is_arrow no_arrow

lemma behindOuter_stop {stop : Char} {joint : Bool} {rest : Trees} (no_arrow : stop ≠ '-') :
    behindOuter stop 0 (.mark stop joint :: rest) = rest :: behindOuter stop 0 rest := by
  rw [behindOuter, if_pos ⟨rfl, rfl⟩]
  intro joint' joint'' rest' is_arrow
  exact absurd is_arrow no_arrow

lemma countsBrackets_behindOuter {stop : Char} (h : stop = ',' ∨ stop = '>') :
    CountsBrackets (behindOuter stop) where
  plain depth t rest is_plain := by
    cases t with
    | mark c joint =>
        simp only [isPlain, List.contains_cons, List.contains_nil, Bool.or_false, Bool.not_eq_true',
          Bool.or_eq_false_iff, beq_eq_false_iff_ne] at is_plain
        obtain ⟨no_arrow, no_opening, no_closing, no_comma⟩ := is_plain
        rw [behindOuter_mark no_arrow (.inr (by rcases h with rfl | rfl <;> assumption)),
          depthBehind, if_neg no_opening, if_neg no_closing]
    | _ => rfl
  arrow depth joint joint' rest := rfl
  sign depth joint text rest := by
    have no_stop : ¬ (depth = 0 ∧ '-' = stop) := by rcases h with rfl | rfl <;> simp
    exact if_neg no_stop
  opening depth joint rest :=
    behindOuter_mark (by decide) (.inr (by rcases h with rfl | rfl <;> decide))
  closing depth joint rest := behindOuter_mark (by decide) (.inl (Nat.succ_ne_zero depth))
  comma depth joint rest := behindOuter_mark (by decide) (.inl (Nat.succ_ne_zero depth))

/-! ## Counting fields -/

/-- The number of entries with commas between them; behind the last comma there may be none. -/
def entryCount (trees : Trees) : Nat :=
  (trees :: behindOuter ',' 0 trees).countP fun entry => !entry.isEmpty

/-- What stands behind the parameters of a declaration. -/
def behindParameters? : Trees → Option Trees
  | .mark '<' _ :: rest => (behindOuter '>' 0 rest).head?
  | ts => some ts

/-- What stands behind the word that says that an item is a structure. -/
def behindStruct? : Trees → Option Trees
  | [] => none
  | .word "struct" :: rest => some rest
  | .word "enum" :: _ => none
  | .word "union" :: _ => none
  | _ :: rest => behindStruct? rest

/-- The number of fields in the parentheses that come next. -/
def parenthesizedCount? : Trees → Option Nat
  | .group .parenthesis fields :: _ => some (entryCount fields)
  | _ => none

/-- The number of fields of a structure with unnamed fields.  Behind the name and the parameters
comes the list of its fields. -/
def unnamedCount? (item : Trees) : Option Nat := do
  let behindName := (← behindStruct? item).drop 1
  parenthesizedCount? (← behindParameters? behindName)

lemma entryCount_last {ts : Trees} (starts : ts.isEmpty = false)
    (no_comma : behindOuter ',' 0 ts = []) : entryCount ts = 1 := by
  rw [entryCount, no_comma, List.countP_singleton, starts]
  rfl

lemma entryCount_comma {ts rest : Trees} (starts : ts.isEmpty = false)
    (comma : behindOuter ',' 0 ts = rest :: behindOuter ',' 0 rest) :
    entryCount ts = entryCount rest + 1 := by
  rw [entryCount, comma, List.countP_cons, starts]
  rfl

lemma parenthesizedCount?_of_not {ts : Trees} (h : startsGroup .parenthesis ts = false) :
    parenthesizedCount? ts = none := by
  rw [parenthesizedCount?.eq_def]
  split
  · cases h
  · rfl

lemma unnamedCount?_struct {kind name : Tree} {rest : Trees}
    (is_struct : startsWord "struct" (kind :: name :: rest) = true) :
    unnamedCount? (kind :: name :: rest) = (behindParameters? rest).bind parenthesizedCount? := by
  cases kind with
  | word text =>
      obtain rfl : text = "struct" := beq_iff_eq.mp is_struct
      rfl
  | _ => cases is_struct

lemma unnamedCount?_of_not_struct {ts : Trees} (starts : startsItem ts = true)
    (no_struct : startsWord "struct" ts ≠ true) : unnamedCount? ts = none := by
  match ts, starts with
  | .word text :: rest, starts =>
      have is_kind : text ∈ ["struct", "enum", "union"] := List.contains_iff_mem.mp starts
      simp only [List.mem_cons, List.not_mem_nil, or_false] at is_kind
      obtain rfl | rfl | rfl := is_kind
      · exact absurd rfl no_struct
      · rfl
      · rfl

lemma startsGroup_of_startsWord {text : String} {d : Delimiter} {ts : Trees}
    (starts : startsWord text ts = true) : startsGroup d ts = false := by
  match ts, starts with
  | .word _ :: _, _ => rfl

/-! ## Declarations -/

section Declarations

variable {g : Rules}
  (nested : ∀ {γ : Type} {V : (depth : Nat) → Trees → γ}, CountsBrackets V → g.KeepCount V)

include nested

lemma keeps_unnamedField : Keeps (unnamedField g) (behindOuter ',' 0) := by
  have counts := countsBrackets_behindOuter (.inl rfl)
  refine (counts.outerAttributes g).bind fun _ => counts.visibility.bind fun _ => ?_
  exact (keeps_typeTrees (nested counts) 0).returning _

/-- As many fields are read as there are entries. -/
lemma leads_unnamedFields (ts : Trees) :
    Leads (unnamedFields g) ts fun fields rest =>
      ∃ trees, ts = .group .parenthesis trees :: rest ∧ fields.length = entryCount trees := by
  refine leads_inside fun trees => ?_
  refine leads_looping (I := fun fields ts => fields.length + entryCount ts = entryCount trees) ?_
    (Nat.zero_add _)
  intro fields ts counted
  refine (leads_peek ?_).bind
  refine leads_ite (fun empty => leads_pure fun _ => ?_) fun nonempty => ?_
  · rw [List.isEmpty_iff.mp empty] at counted
    exact counted
  have starts : ts.isEmpty = false := Bool.eq_false_iff.mpr nonempty
  refine ((keeps_unnamedField nested ts).mono fun field rest seen => (leads_peek ?_).bind).bind
  refine leads_ite (fun empty => leads_pure fun _ => ?_) fun _ => ?_
  · rw [List.isEmpty_iff.mp empty] at seen
    rw [List.length_append, ← counted, entryCount_last starts seen.symm]
    rfl
  refine ((leads_mark_one rfl).mono ?_).bind
  rintro - behind ⟨joint, rfl⟩
  rw [entryCount_comma starts (seen.symm.trans (behindOuter_stop (by decide)))] at counted
  refine leads_pure ?_
  rw [if_pos rfl, List.length_append, List.length_singleton, ← counted]
  omega

lemma carries_parameterList : Carries (parameterList g) behindParameters? some := by
  intro ts
  refine (leads_peek ?_).bind
  refine leads_ite (fun _ => ?_) fun other => leads_pure ?_
  · have counts := (countsBrackets_behindOuter (.inr rfl)).comp List.head?
    refine carries_angledParameters counts (nested counts) 0 true ?_ ?_ ?_ ts
    · exact fun joint rest => rfl
    · intro joint rest
      rw [behindOuter_mark (by decide) (.inr (by decide))]
      rfl
    · intro joint rest
      rw [behindOuter_stop (by decide)]
      rfl
  · rw [behindParameters?.eq_def]
    split
    · exact absurd rfl other
    · rfl

omit nested in
lemma leads_whereClause (ts : Trees) :
    Leads (whereClause g) ts fun _ rest => startsWord "where" ts = false → rest = ts := by
  refine (leads_peek ?_).bind
  refine leads_ite (fun _ => leads_pure fun _ => rfl) fun starts => ?_
  intro _ _ _ absent
  exact absurd (by rw [absent]; rfl) starts

/-- A structure has a list of unnamed fields if that is what comes next. -/
lemma leads_structureBody (ts : Trees) :
    Leads (structureBody g) ts fun r _ => r.2.unnamedCount? = parenthesizedCount? ts := by
  refine (leads_peek ?_).bind
  refine ((leads_whereClause ts).mono fun early ts' unmoved => (leads_get ?_).bind).bind
  refine leads_ite (fun list => ?_) fun no_list => ?_
  · obtain ⟨absent, -⟩ := Bool.and_eq_true_iff.mp list
    obtain rfl := unmoved (by simpa using absent)
    refine ((leads_unnamedFields nested ts').mono ?_).bind
    rintro fields rest ⟨trees, rfl, counted⟩
    exact leads_then fun _ _ => leads_then fun _ _ => leads_pure (congrArg some counted)
  · have no_count : none = parenthesizedCount? ts := by
      refine (parenthesizedCount?_of_not ?_).symm
      cases clause : startsWord "where" ts with
      | true => exact startsGroup_of_startsWord clause
      | false =>
          obtain rfl := unmoved clause
          rw [clause] at no_list
          exact Bool.eq_false_iff.mpr no_list
    refine leads_ite (fun _ => ?_) fun _ => ?_
    · exact leads_then fun _ _ => leads_pure no_count
    · exact leads_then fun _ _ => leads_pure no_count

omit nested in
lemma leads_enumerationBody (ts : Trees) :
    Leads (enumerationBody g) ts fun r _ => r.2.unnamedCount? = none :=
  leads_then fun _ _ => leads_then fun _ _ => leads_pure rfl

omit nested in
lemma leads_unionBody (ts : Trees) :
    Leads (unionBody g) ts fun r _ => r.2.unnamedCount? = none :=
  leads_then fun _ _ => leads_then fun _ _ => leads_pure rfl

/-- The number of fields that are counted is that of the fields that are read. -/
lemma leads_itemBehind (attributes scope ts : Trees) :
    Leads (itemBehind g attributes scope) ts fun found _ =>
      found.body.unnamedCount? = unnamedCount? ts := by
  refine (leads_get ?_).bind
  refine (leads_require fun starts => (leads_next fun kind rest first => ?_).bind).bind
  subst first
  refine (leads_require fun _ => (leads_next fun name rest' second => ?_).bind).bind
  subst second
  refine ((carries_parameterList nested rest').mono fun parameters ts' seen => ?_).bind
  refine leads_ite (fun is_struct => ?_) fun no_struct => ?_
  · refine ((leads_structureBody nested ts').mono fun r _ counted => ?_).bind
    rw [unnamedCount?_struct is_struct, ← seen]
    exact leads_pure counted
  · have no_count := unnamedCount?_of_not_struct starts no_struct
    rw [no_count]
    refine leads_ite (fun _ => ?_) fun _ => ?_
    · exact Leads.bind ((leads_enumerationBody ts').mono fun _ _ read => leads_pure read)
    · exact Leads.bind ((leads_unionBody ts').mono fun _ _ read => leads_pure read)

lemma leads_item (ts : Trees) :
    Leads (item g) ts fun found _ => found.body.unnamedCount? = unnamedCount? ts := by
  have attributes : Keeps (outerAttributes g) unnamedCount? :=
    keeps_outerAttributes (fun _ _ _ => rfl) g fun _ _ => rfl
  have scope : Keeps visibility unnamedCount? := keeps_visibility (fun _ _ _ => rfl) fun _ => rfl
  refine ((attributes ts).mono fun _ ts' seen => ?_).bind
  refine ((scope ts').mono fun _ ts'' seen' => ?_).bind
  rw [← seen, ← seen']
  exact leads_itemBehind nested _ _ ts''

end Declarations

end SequenceKit.Grammar

namespace SequenceKit.Item

open SequenceKit.Source SequenceKit.Grammar

/-- A declaration has as many unnamed fields as there are in its tokens. -/
lemma unnamedCount?_of_ofTrees? {declaration : Trees} {item : Item}
    (reads : ofTrees? declaration = some item) :
    item.body.unnamedCount? = unnamedCount? declaration := by
  rw [ofTrees?] at reads
  split at reads
  · next found run =>
      cases reads
      exact leads_item (fun counts => Rules.keepCount_ofDepth counts _) declaration run
  · cases reads

end SequenceKit.Item
