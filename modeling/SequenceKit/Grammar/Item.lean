import SequenceKit.Grammar.Generics
import SequenceKit.Item.Basic

/-!
# Reading data types

* `unnamedFields`, `namedFields` — fields between parentheses and between braces.
* `variant` — a variant of an enumeration.
* **`itemBehind`** — a data type behind its attributes and its visibility.
-/

namespace SequenceKit.Grammar

open SequenceKit.Source SequenceKit.Generics

/-! ## Fields -/

/-- A field without a name, and without its comma. -/
def unnamedField (g : Rules) : Reader Item.Field := do
  let attributes ← outerAttributes g
  let scope ← visibility
  return ⟨attributes, scope, ← g.typeTrees, false⟩

/-- The fields of a tuple structure. -/
def unnamedFields (g : Rules) : Reader (List Item.Field) :=
  inside .parenthesis <| looping (fun fields => do
    if ← atEnd then return (fields, false)
    let field ← unnamedField g
    if ← atEnd then return (fields ++ [field], false)
    let _ ← mark ","
    return (fields ++ [{ field with comma := true }], true)) []

/-- The type of a field that has no name of its own may be a structure or union in place, which
stays as it is written. -/
def typeInPlace (g : Rules) (namedFields : Reader Trees) : Reader Trees := do
  let start ← get
  let isUnion := startsWord "union" start && startsGroup .brace (start.drop 1)
  if startsWord "struct" start || isUnion then
    let _ ← next
    let _ ← namedFields
    since start
  else g.typeTrees

/-- The fields of a structure with named fields, between braces. -/
def namedFieldsAt (g : Rules) : (depth : Nat) → Reader Trees
  | 0 => failure
  | depth + 1 =>
      within .brace <| listed do
        let attributes ← outerAttributes g
        let scope ← visibility
        let nameless ← peek (startsWord "_")
        let label ← if nameless then word "_" else name
        let colon ← mark ":"
        let type ← if nameless then typeInPlace g (namedFieldsAt g depth) else g.typeTrees
        return attributes ++ scope ++ label ++ colon ++ type

/-- The fields of a structure with named fields. -/
def namedFields (g : Rules) : Reader Trees := do
  namedFieldsAt g ((treesWords (← get)).length + 1)

/-! ## Bodies -/

/-- A variant of an enumeration.  A visibility before it is allowed but not kept. -/
def variant (g : Rules) : Reader Trees := do
  let attributes ← outerAttributes g
  let _ ← visibility
  let label ← name
  let ts ← get
  let fields ←
    if startsGroup .brace ts then namedFields g
    else if startsGroup .parenthesis ts then do
      pure (parens ((← unnamedFields g).map Item.Field.print).flatten)
    else pure []
  return attributes ++ label ++ fields ++ valueBehind (← value? g.expression)

/-- The where clause and the body of a structure.  The clause stands before named fields and
behind unnamed ones. -/
def structureBody (g : Rules) : Reader (List Predicate × Item.Body) := do
  let hasClause ← peek (startsWord "where")
  let early ← whereClause g
  let ts ← get
  if !hasClause && startsGroup .parenthesis ts then
    let fields ← unnamedFields g
    let late ← whereClause g
    let _ ← mark ";"
    return (late, .tuple fields)
  else if startsGroup .brace ts then return (early, .record (← namedFields g))
  else
    let _ ← mark ";"
    return (early, .unit)

/-- The where clause and the body of an enumeration. -/
def enumerationBody (g : Rules) : Reader (List Predicate × Item.Body) := do
  let clause ← whereClause g
  return (clause, .enumeration (← within .brace (listed (variant g))))

/-- The where clause and the body of a union. -/
def unionBody (g : Rules) : Reader (List Predicate × Item.Body) := do
  let clause ← whereClause g
  return (clause, .union (← namedFields g))

/-! ## Items -/

/-- Whether a data type comes next, behind its attributes and its visibility. -/
def startsItem (ts : Trees) : Bool :=
  startsOneOf ["struct", "enum", "union"] ts

/-- A data type behind its attributes and its visibility. -/
def itemBehind (g : Rules) (attributes scope : Trees) : Reader Item := do
  let ts ← get
  require startsItem
  let _ ← next
  require startsName
  let name ← next
  let parameters ← parameterList g
  let (predicates, body) ←
    if startsWord "struct" ts then structureBody g
    else if startsWord "enum" ts then enumerationBody g
    else unionBody g
  return ⟨attributes, scope, name, ⟨parameters, predicates⟩, body⟩

/-- A data type with its attributes and its visibility. -/
def item (g : Rules) : Reader Item := do
  let attributes ← outerAttributes g
  let scope ← visibility
  itemBehind g attributes scope

end SequenceKit.Grammar
