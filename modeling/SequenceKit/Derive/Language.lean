import SequenceKit.Derive.Forwarding
import SequenceKit.Item.Basic

/-!
# Expanding a derive

From the declaration of a newtype to the implementation that forwards a capability to the type it
wraps.  Only a structure with exactly one unnamed field is a newtype.

How declarations are read, and how their generics are written, is not a matter of the derives: they
have it from a language and work on what it hands over.

* `Language` — what is asked of a language.
* `Refusal` — why there is no implementation, and its `message?`.
* `Language.bounded`, `Language.implementation` — the generics and the whole of an implementation.
* **`Language.expand`** — from the tokens of a declaration to those of the implementation.
-/

namespace SequenceKit.Derive

open SequenceKit.Source SequenceKit.Generics

/-- What a derive has from the language of the declarations. -/
structure Language where
  /-- The item that tokens declare, if they declare exactly one. -/
  read : Trees → Option Item
  /-- Parameters as an implementation declares them. -/
  declared : List Parameter → Trees
  /-- Parameters as the implementing type is applied to them. -/
  applied : List Parameter → Trees
  /-- Predicates as a where clause. -/
  clause : List Predicate → Trees
  /-- The predicate that a type has a bound. -/
  predicate : (subject bound : Trees) → Predicate
  /-- Predicates with one more behind them. -/
  push : List Predicate → Predicate → List Predicate

/-- Why nothing is derived. -/
inductive Refusal where
  /-- The tokens do not declare exactly one data type. -/
  | unreadable
  /-- The data type is no newtype. -/
  | notNewtype (c : Capability)
  deriving DecidableEq, Repr

/-- The sentence that a refusal is reported with, where the declaration could be read. -/
def Refusal.message? : Refusal → Option String
  | unreadable => none
  | notNewtype c => some (c.name ++ " can only be derived for single-field tuple structs")

namespace Language

variable (language : Language)

/-- The generics of an implementation.  For a generic item the wrapped type has to have the
capability; for any other that is a fact, and no predicate is needed. -/
def bounded (c : Capability) (generics : Generics) (inner : Trees) : Generics :=
  if generics.parameters.isEmpty then generics
  else
    let predicate := language.predicate inner (capabilityPath c)
    { generics with predicates := language.push generics.predicates predicate }

/-- The implementation of a capability for an item, over the type that the item wraps. -/
def implementation (c : Capability) (item : Item) (inner : Trees) : Trees :=
  let generics := language.bounded c item.generics inner
  words "impl" ++ language.declared generics.parameters ++ capabilityPath c ++ words "for" ++
    item.name :: language.applied generics.parameters ++ language.clause generics.predicates ++
    braces (members c inner)

/-- The implementation of a capability for the item that tokens declare. -/
def expand (c : Capability) (declaration : Trees) : Except Refusal Trees :=
  match language.read declaration with
  | none => .error .unreadable
  | some item =>
      match item.soleField? with
      | none => .error (.notNewtype c)
      | some field => .ok (language.implementation c item field.type)

end Language

end SequenceKit.Derive
