import SequenceKit.Derive.Language
import SequenceKit.Item.Reader
import SequenceKit.Source.Lexer

/-!
# Derived implementations, as text

The derives at work: their language is that of the grammar, and texts take the place of tokens.

* `Language.standard` — reading by the grammar, and lists written with the commas that they have.
* **`derive`** — from the text of an item to the text of the implementation.
-/

namespace SequenceKit.Derive

open SequenceKit.Source SequenceKit.Generics

/-- Parameters as an implementation has them: lifetimes first, and no default. -/
def implementedParameters (parameters : List Parameter) : List Parameter :=
  inWrittenOrder (parameters.map Parameter.withoutDefault)

/-- The language of the grammar. -/
def Language.standard : Language where
  read := Item.ofTrees?
  declared parameters := printInOrder Parameter.print (implementedParameters parameters)
  applied parameters := printInOrder Parameter.printName (implementedParameters parameters)
  clause := printWhere
  predicate subject bound := ⟨[], subject, bound, false⟩
  push predicates p := predicates.map ({ · with comma := true }) ++ [p]

/-- The implementation of a capability for the item that a text declares, as text. -/
def derive (c : Capability) (text : String) : Except Refusal String :=
  match Tree.ofText? text with
  | none => .error .unreadable
  | some declaration => (Language.standard.expand c declaration).map printTrees

end SequenceKit.Derive
