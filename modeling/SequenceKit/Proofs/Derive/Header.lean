import SequenceKit.Proofs.Derive.Lawful

/-!
# The head of a derived implementation

An implementation for a generic newtype repeats the generics of the newtype.  They come from its
declaration with bounds, defaults, predicates and commas in any combination, and each place of the
head takes a different part of them: the parameters as they are declared, without defaults; their
bare names; and the predicates, with one more if there is a parameter.

The head is compared with `implementationWords`, for every language that keeps its promises.

* **`derive_head`** — the whole implementation, and what it does not depend on.
-/

namespace SequenceKit.Derive

open SequenceKit.Source SequenceKit.Generics

/-- **The head of a derived implementation is right for every newtype.**  Let tokens declare a
structure with one unnamed field, whose parameters have distinct names.  Then for every capability
one implementation of that capability is derived, word by word `implementationWords`.  The
parameters that its head declares, and with their names applies the newtype to, are those of the
declaration, each of them once, lifetimes first.  Attributes and visibilities, of the structure and
of its field, leave no trace: from another declaration of the same name, generics and type of the
field the same is derived. -/
theorem derive_head {language : Language} (lawful : language.Lawful) {c : Capability}
    {declaration : Trees} {item : Item} {field : Item.Field}
    (reads : language.read declaration = some item) (newtype : item.soleField? = some field)
    (distinct : (item.generics.parameters.map (·.name.words)).Nodup) :
    (∃ code declared applied stated, language.expand c declaration = .ok code ∧
      treesWords code =
        implementationWords c item (treesWords field.type) declared applied stated) ∧
    (lifetimesThenOthers item.generics.parameters).Perm item.generics.parameters ∧
    ((lifetimesThenOthers item.generics.parameters).map (·.name.words)).Nodup ∧
    ∀ {declaration' : Trees} {item' : Item} {field' : Item.Field},
      language.read declaration' = some item' → item'.soleField? = some field' →
      item'.name = item.name → item'.generics = item.generics → field'.type = field.type →
      language.expand c declaration' = language.expand c declaration := by
  have names := (lifetimesThenOthers_perm item.generics.parameters).map (·.name.words)
  refine ⟨lawful.exists_expansion c reads newtype, lifetimesThenOthers_perm _,
    names.nodup_iff.mpr distinct, ?_⟩
  intro declaration' item' field' reads' newtype' name generics type
  exact Language.expand_congr c reads reads' newtype newtype' name generics type

/-- A newtype with parameters of all sorts, a lifetime behind a type among them, two defaults and
a predicate. -/
def mixedNewtype : String :=
  "#[must_use] pub struct Mixed<T: Copy = u8, 'a, const N: usize = 3>(pub [&'a T; N]) where T: 'a;"

example : derive .size mixedNewtype = .ok (" ".intercalate
    (spaced "impl < 'a , T : Copy , const N : usize >" ++
      spaced ": : seqcap : : Size for Mixed < 'a , T , N >" ++
      spaced "where T : 'a , [ & 'a T ; N ] : : : seqcap : : Size \x7b # [ inline ]" ++
      spaced "fn size ( & self ) - > usize \x7b : : seqcap : : Size : : size ( & self . 0 ) \x7d" ++
      spaced "\x7d")) := by
  decide +kernel

/-- Its implementations, whose parameters start with the lifetime. -/
theorem derive_head_mixed :
    ∃ declaration item field, Tree.ofText? mixedNewtype = some declaration ∧
      Language.standard.Lawful ∧ Language.standard.read declaration = some item ∧
      item.soleField? = some field ∧
      item.generics.parameters.map (·.name.words) = [["T"], ["'a"], ["N"]] ∧
      ((lifetimesThenOthers item.generics.parameters).map (·.name.words)).Nodup ∧
      ∃ code declared applied stated,
        Language.standard.expand .sequence declaration = .ok code ∧ treesWords code =
          implementationWords .sequence item (treesWords field.type) declared applied stated := by
  have read : ((Tree.ofText? mixedNewtype).any fun declaration =>
      (Language.standard.read declaration).any fun item => item.soleField?.isSome &&
        item.generics.parameters.map (·.name.words) == [["T"], ["'a"], ["N"]]) = true := by
    decide +kernel
  obtain ⟨declaration, lexed, read⟩ := (Option.any_eq_true _ _).mp read
  obtain ⟨item, reads, is_mixed⟩ := (Option.any_eq_true _ _).mp read
  obtain ⟨has_field, named⟩ := Bool.and_eq_true_iff.mp is_mixed
  obtain ⟨field, newtype⟩ := Option.isSome_iff_exists.mp has_field
  have names : item.generics.parameters.map (·.name.words) = [["T"], ["'a"], ["N"]] :=
    eq_of_beq named
  have distinct : (item.generics.parameters.map (·.name.words)).Nodup := by
    rw [names]
    decide
  obtain ⟨derived, -, once, -⟩ :=
    derive_head Language.lawful_standard (c := .sequence) reads newtype distinct
  exact ⟨declaration, item, field, lexed, Language.lawful_standard, reads, newtype, names, once,
    derived⟩

end SequenceKit.Derive
