import SequenceKit.Derive.Implementation
import SequenceKit.Proofs.Derive.Expected
import SequenceKit.Proofs.Derive.Fields

/-!
# Languages that keep their promises

The derives leave it to their language how declarations are read and how generics are written.
What they rely on is said here, by the words of what is written and by the tokens of what is read;
nothing else is known of a language where the derives are looked at.

**Reading.**  Lists come with commas between their entries, and with as many unnamed fields as
there are in the tokens.

**Writing.**  An implementation declares parameters with everything but their defaults, lifetimes
first, and applies its type to their bare names in the same order.  A where clause states its
predicates one after the other, and adding one leaves the others as they are.

* `Language.Lawful` — the promises.
* **`Language.lawful_standard`** — the language of the grammar keeps them.
* `Language.Lawful.exists_expansion` — what is then derived for a newtype.
-/

namespace SequenceKit.Derive.Language

open SequenceKit.Source SequenceKit.Generics SequenceKit.Grammar

/-- What the derives rely on. -/
structure Lawful (language : Language) : Prop where
  /-- In the lists of a declaration there is a comma between any two entries. -/
  punctuated : ∀ {declaration : Trees} {item : Item}, language.read declaration = some item →
    item.generics.WellPunctuated
  /-- Commas inside of fields, and one behind the last, do not change their number. -/
  counted : ∀ {declaration : Trees} {item : Item}, language.read declaration = some item →
    item.body.unnamedCount? = unnamedCount? declaration
  declared : ∀ {parameters : List Parameter}, Punctuated Parameter.comma parameters →
    ∃ trailing, treesWords (language.declared parameters) =
      inAngles ((lifetimesThenOthers parameters).map Parameter.declaration) trailing
  applied : ∀ {parameters : List Parameter}, Punctuated Parameter.comma parameters →
    ∃ trailing, treesWords (language.applied parameters) =
      inAngles ((lifetimesThenOthers parameters).map (·.name.words)) trailing
  clause : ∀ {predicates : List Predicate}, Punctuated Predicate.comma predicates →
    ∃ trailing, treesWords (language.clause predicates) =
      behindWhere (predicates.map Predicate.statement) trailing
  /-- The type of a field can be bounded by a trait, in the words that it is written with. -/
  predicate : ∀ {declaration : Trees} {item : Item} {field : Item.Field} (c : Capability),
    language.read declaration = some item → item.soleField? = some field →
    (language.predicate field.type (capabilityPath c)).statement =
      treesWords field.type ++ ":" :: treesWords (capabilityPath c)
  pushed : ∀ (predicates : List Predicate) (p : Predicate),
    (language.push predicates p).map Predicate.statement =
      predicates.map Predicate.statement ++ [p.statement]
  /-- The predicate stands behind a comma, whether or not there was one. -/
  pushed_punctuated : ∀ {predicates : List Predicate} (p : Predicate),
    Punctuated Predicate.comma predicates → Punctuated Predicate.comma (language.push predicates p)

/-- Reading by the grammar, and writing lists with the commas that they have, is lawful. -/
theorem lawful_standard : standard.Lawful where
  punctuated := Item.punctuated_of_ofTrees?
  counted := Item.unnamedCount?_of_ofTrees?
  declared h := ⟨_, words_printInOrder Parameter.words_print_withoutDefault (fun _ => rfl) h⟩
  applied h := ⟨_, words_printInOrder Parameter.words_printName_withoutDefault (fun _ => rfl) h⟩
  clause h := ⟨_, words_printWhere h⟩
  predicate _ _ _ := rfl
  pushed predicates p := by
    show (predicates.map _ ++ [p]).map Predicate.statement = _
    rw [List.map_append, List.map_map]
    rfl
  pushed_punctuated {predicates} p _ := by
    refine .concat (fun q member => ?_) p
    obtain ⟨q', -, rfl⟩ := List.mem_map.mp member
    rfl

namespace Lawful

variable {language : Language} (lawful : language.Lawful) (c : Capability) {declaration : Trees}
  {item : Item} {field : Item.Field}

include lawful

/-- The generics of an implementation state what they are to state. -/
lemma bounded_statements (reads : language.read declaration = some item)
    (newtype : item.soleField? = some field) :
    (language.bounded c item.generics field.type).predicates.map Predicate.statement =
        statementsOf c item.generics (treesWords field.type) ∧
      Punctuated Predicate.comma (language.bounded c item.generics field.type).predicates := by
  have commas := (lawful.punctuated reads).predicates
  rw [bounded, statementsOf]
  split
  · exact ⟨(List.append_nil _).symm, commas⟩
  · refine ⟨?_, lawful.pushed_punctuated _ commas⟩
    dsimp only
    rw [lawful.pushed, lawful.predicate c reads newtype, words_capabilityPath]

omit lawful in
/-- Predicates come and go, the parameters stay. -/
lemma bounded_parameters (generics : Generics) (inner : Trees) :
    (language.bounded c generics inner).parameters = generics.parameters := by
  rw [bounded]
  split <;> rfl

/-- What is derived for a newtype, word by word. -/
lemma exists_expansion (reads : language.read declaration = some item)
    (newtype : item.soleField? = some field) :
    ∃ code declared applied stated, language.expand c declaration = .ok code ∧
      treesWords code =
        implementationWords c item (treesWords field.type) declared applied stated := by
  obtain ⟨stated_eq, commas⟩ := lawful.bounded_statements c reads newtype
  have listed := (lawful.punctuated reads).parameters
  obtain ⟨declared, is_declared⟩ := lawful.declared listed
  obtain ⟨applied, is_applied⟩ := lawful.applied listed
  obtain ⟨stated, is_stated⟩ := lawful.clause commas
  refine ⟨language.implementation c item field.type, declared, applied, stated, ?_, ?_⟩
  · simp only [expand, reads, newtype]
  · rw [stated_eq] at is_stated
    simp only [implementation, implementationWords, bounded_parameters, treesWords_append,
      treesWords, braces, Tree.words, words_capabilityPath, words_members, is_declared, is_applied,
      is_stated, List.append_assoc, List.append_nil]
    rfl

end Lawful

/-- What is derived depends on the name, the generics and the type of the field. -/
lemma expand_congr {language : Language} (c : Capability) {declaration declaration' : Trees}
    {item item' : Item} {field field' : Item.Field}
    (reads : language.read declaration = some item)
    (reads' : language.read declaration' = some item')
    (newtype : item.soleField? = some field) (newtype' : item'.soleField? = some field')
    (name : item'.name = item.name) (generics : item'.generics = item.generics)
    (type : field'.type = field.type) :
    language.expand c declaration' = language.expand c declaration := by
  simp only [expand, reads, reads', newtype, newtype', implementation, name, generics, type]

/-- Without a field of its own for the derive to forward to there is a refusal. -/
lemma expand_of_none {language : Language} (c : Capability) {declaration : Trees} {item : Item}
    (reads : language.read declaration = some item) (other : item.soleField? = none) :
    language.expand c declaration = .error (.notNewtype c) := by
  simp only [expand, reads, other]

end SequenceKit.Derive.Language
