import SequenceKit.Proofs.Derive.Lawful

/-!
# What counts as a newtype

Only a structure with one unnamed field is a newtype, so everything depends on how many fields a
declaration is read with.  A lawful language reads as many as `unnamedCount?` finds in the tokens,
and what is derived is compared with that, for each capability and each declaration of an item.

* **`derive_newtypes_only`** — an implementation for one field, a refusal otherwise.
-/

namespace SequenceKit

namespace Item

open SequenceKit.Source SequenceKit.Grammar

variable {item : Item}

/-- One unnamed field, as a body and as a number. -/
lemma tuple_iff_count :
    (∃ field, item.body = .tuple [field]) ↔ item.body.unnamedCount? = some 1 := by
  constructor
  · rintro ⟨field, body⟩
    rw [body]
    rfl
  · intro one
    match body : item.body, one with
    | .tuple [field], _ => exact ⟨field, rfl⟩

lemma soleField?_eq_none (other : ¬ ∃ field, item.body = .tuple [field]) :
    item.soleField? = none := by
  rw [soleField?]
  split
  · next field body => exact absurd ⟨field, body⟩ other
  · rfl

end Item

namespace Derive

open SequenceKit.Source SequenceKit.Grammar

/-- **Exactly the structures with one unnamed field are newtypes.**  Let tokens declare an item of
any kind.  A capability is derived for it if and only if it is a structure with unnamed fields, one
of them; and that is so if and only if the tokens show one such field, where commas inside of
parentheses, brackets, braces and angle brackets do not count, nor does one behind the last field.
Then the implementation is that over the type of this field, word by word.  In every other case
there is no implementation but a refusal, whose message starts with the name of the trait. -/
theorem derive_newtypes_only {language : Language} (lawful : language.Lawful)
    {declaration : Trees} {item : Item} (reads : language.read declaration = some item)
    (c : Capability) :
    ((∃ code, language.expand c declaration = .ok code) ↔ ∃ field, item.body = .tuple [field]) ∧
    ((∃ field, item.body = .tuple [field]) ↔ unnamedCount? declaration = some 1) ∧
    (∀ field, item.body = .tuple [field] →
      ∃ code declared applied stated, language.expand c declaration = .ok code ∧
        treesWords code =
          implementationWords c item (treesWords field.type) declared applied stated) ∧
    ((¬ ∃ field, item.body = .tuple [field]) →
      ∃ refusal, language.expand c declaration = .error refusal ∧
        refusal.message? =
          some (traitName c ++ " can only be derived for single-field tuple structs")) := by
  have made (field : Item.Field) (body : item.body = .tuple [field]) :
      ∃ code declared applied stated, language.expand c declaration = .ok code ∧
        treesWords code =
          implementationWords c item (treesWords field.type) declared applied stated := by
    have newtype : item.soleField? = some field := by rw [Item.soleField?, body]
    exact lawful.exists_expansion c reads newtype
  have refused (other : ¬ ∃ field, item.body = .tuple [field]) :
      language.expand c declaration = .error (.notNewtype c) :=
    Language.expand_of_none c reads (Item.soleField?_eq_none other)
  refine ⟨⟨?_, ?_⟩, ?_, made, fun other => ⟨_, refused other, ?_⟩⟩
  · rintro ⟨code, derived⟩
    by_contra other
    rw [refused other] at derived
    cases derived
  · rintro ⟨field, body⟩
    obtain ⟨code, _, _, _, derived, -⟩ := made field body
    exact ⟨code, derived⟩
  · rw [Item.tuple_iff_count, lawful.counted reads]
  · cases c <;> rfl

/-- A newtype with commas in its parameters, in an attribute and in the type of its field, and with
one behind the field. -/
def nestedNewtype : String :=
  "pub struct Table<K: Into<(u8, u8)>, V>(#[doc(a, b)] Map<K, fn(u8, u8) -> V>,) where K: Ord;"

/-- A structure with two fields. -/
def nestedPair : String :=
  "struct Pair<K, V>(Map<K, fn(u8) -> (K, V)>, V);"

/-- What is derived for the one and for the other. -/
theorem derive_newtypes_only_nested :
    Language.standard.Lawful ∧
    (∃ declaration item, Tree.ofText? nestedNewtype = some declaration ∧
      Language.standard.read declaration = some item ∧
      ∃ code, Language.standard.expand .sequence declaration = .ok code) ∧
    ∃ declaration item, Tree.ofText? nestedPair = some declaration ∧
      Language.standard.read declaration = some item ∧
      ∃ refusal, Language.standard.expand .sequence declaration = .error refusal ∧
        refusal.message? = some "Sequence can only be derived for single-field tuple structs" := by
  have read : ((Tree.ofText? nestedNewtype).any fun declaration =>
      (Language.standard.read declaration).isSome && unnamedCount? declaration == some 1) = true ∧
      ((Tree.ofText? nestedPair).any fun declaration =>
        (Language.standard.read declaration).isSome && unnamedCount? declaration == some 2) =
          true := by
    decide +kernel
  obtain ⟨declaration, lexed, is_newtype⟩ := (Option.any_eq_true _ _).mp read.1
  obtain ⟨declaration', lexed', is_pair⟩ := (Option.any_eq_true _ _).mp read.2
  obtain ⟨has_item, one⟩ := Bool.and_eq_true_iff.mp is_newtype
  obtain ⟨has_item', two⟩ := Bool.and_eq_true_iff.mp is_pair
  obtain ⟨item, reads⟩ := Option.isSome_iff_exists.mp has_item
  obtain ⟨item', reads'⟩ := Option.isSome_iff_exists.mp has_item'
  obtain ⟨made, counted, -⟩ := derive_newtypes_only Language.lawful_standard reads .sequence
  obtain ⟨-, counted', -, refused⟩ :=
    derive_newtypes_only Language.lawful_standard reads' .sequence
  refine ⟨Language.lawful_standard,
    ⟨declaration, item, lexed, reads, made.mpr (counted.mpr (eq_of_beq one))⟩,
    declaration', item', lexed', reads', refused fun newtype => ?_⟩
  have is_one := counted'.mp newtype
  rw [eq_of_beq two] at is_one
  cases is_one

end Derive

end SequenceKit
