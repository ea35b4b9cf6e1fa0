import SequenceKit.Generics.Basic

/-!
# Items

The declaration of a data type: its attributes and visibility, its name, its generic parameters,
the predicates on them, and its body.

* `Item.Field` — a field without a name.
* `Item.Body` — the fields of a tuple structure, or what else the item is.
* `Item` — the declaration.
* `Item.soleField?` — the field of a newtype.
* `Item.print` — the declaration as it is written.
-/

namespace SequenceKit.Item

open SequenceKit.Source

/-- A field of a tuple structure. -/
structure Field where
  attributes : Trees
  visibility : Trees
  type : Trees
  /-- Whether a comma follows it. -/
  comma : Bool

/-- A field as it is written. -/
def Field.print (field : Field) : Trees :=
  field.attributes ++ field.visibility ++ field.type ++ commaIf field.comma

/-- The body of an item.  Where nothing depends on what it holds it is kept as it is written, with
its braces. -/
inductive Body where
  /-- A structure with unnamed fields. -/
  | tuple (fields : List Field)
  /-- A structure with named fields. -/
  | record (fields : Trees)
  /-- A structure without fields. -/
  | unit
  | enumeration (variants : Trees)
  | union (fields : Trees)

/-- The word that says what an item is. -/
def Body.word : Body → String
  | tuple _ | record _ | unit => "struct"
  | enumeration _ => "enum"
  | union _ => "union"

/-- A body and the where clause, which stands behind unnamed fields and before any others. -/
def Body.print (body : Body) (clause : Trees) : Trees :=
  match body with
  | tuple fields => parens (fields.map Field.print).flatten ++ clause ++ words ";"
  | unit => clause ++ words ";"
  | record trees | enumeration trees | union trees => clause ++ trees

end SequenceKit.Item

namespace SequenceKit

open SequenceKit.Source

/-- The declaration of a data type. -/
structure Item where
  attributes : Trees
  visibility : Trees
  name : Tree
  generics : Generics
  body : Item.Body

namespace Item

/-- The field of a tuple structure that has exactly one. -/
def soleField? (item : Item) : Option Item.Field :=
  match item.body with
  | .tuple [field] => some field
  | _ => none

/-- A declaration as it is written. -/
def print (item : Item) : Trees :=
  item.attributes ++ item.visibility ++ words item.body.word ++ item.name ::
    Generics.printParameters item.generics.parameters ++
    item.body.print (Generics.printWhere item.generics.predicates)

end Item

end SequenceKit
