import SequenceKit.Generics.Order
import SequenceKit.Grammar.Basic

/-!
# Paths and their arguments

A path is identifiers joined by `::`, each of which may carry arguments between angle brackets.
In an expression the brackets follow a `::` of their own.

* `PathPiece` — a path that was read, its last arguments apart.
* `genericArgument`, `angledArguments` — arguments between angle brackets.
* `plainPath` — a path without any arguments.
* **`qualifiedPath`** — a path, which may start at a type between angle brackets.
-/

namespace SequenceKit.Grammar

open SequenceKit.Source SequenceKit.Generics

/-- A path that was read. -/
structure PathPiece where
  /-- Everything up to the last identifier. -/
  front : Trees
  /-- The arguments of the last identifier. -/
  arguments : Trees
  /-- Whether the last identifier has no argument, be it without brackets or with empty ones. -/
  bare : Bool
  /-- Whether no identifier has brackets. -/
  plain : Bool
  /-- Whether it is a single identifier without a leading `::`. -/
  single : Bool
  /-- Whether it starts at a type between angle brackets. -/
  qualified : Bool

/-- The whole path. -/
def PathPiece.trees (p : PathPiece) : Trees :=
  p.front ++ p.arguments

/-- Words that can stand in a path although they are no names, and take no arguments there. -/
def pathWords : List String :=
  ["super", "self", "crate", "try"]

/-- Whether a word comes next that can stand in any path. -/
def startsPathWord (ts : Trees) : Bool :=
  startsName ts || startsOneOf ["super", "self", "Self", "crate"] ts

/-! ## Plain paths -/

/-- A path without arguments, such as the path of an attribute. -/
def plainPath : Reader Trees := do
  let lead ← optionalMark "::"
  let path ← gather do
    let word ← one startsPathWord
    if ← peek (startsMark "::") then return (word ++ (← mark "::"), true)
    return (word, false)
  return lead ++ path

/-! ## Constants as arguments -/

/-- A constant argument: a literal, a block or a name. -/
def constantArgument (g : Rules) : Reader Trees := do
  if ← peek startsLiteral then literal
  else if ← peek (startsGroup .brace) then g.block true
  else name

/-! ## Arguments between angle brackets -/

/-- The bounds behind the colon of a constraint, up to a comma or the closing bracket. -/
def constraintBounds (g : Rules) : Reader Trees :=
  gather do
    if (← peek (startsMark ",")) || (← peek (startsMark ">")) then return ([], false)
    let found ← g.plainBound
    if ← peek (startsMark "+") then return (found ++ (← mark "+"), true)
    return (found, false)

/-- One argument, and whether it is a lifetime: a lifetime, a constant, a type, or a name with the
value or the bounds that it is given. -/
def genericArgument (g : Rules) : Reader (Trees × Bool) := do
  let ts ← get
  if startsLifetime ts && !startsMark "+" (ts.drop 1) then
    return (← lifetime, true)
  if startsLiteral ts || startsGroup .brace ts then
    return (← constantArgument g, false)
  let type ← g.type true
  let named := match type.form with
    | .name => true
    | _ => false
  if named then
    if ← peek (startsMark "=") then
      let equal ← mark "="
      let isConstant := fun ts => startsLiteral ts || startsGroup .brace ts
      let value ← if ← peek isConstant then constantArgument g else g.typeTrees
      return (type.trees ++ equal ++ value, false)
    if ← peek (startsMark ":") then
      let colon ← mark ":"
      return (type.trees ++ colon ++ (← constraintBounds g), false)
  return (type.trees, false)

/-- The arguments between angle brackets, and whether there are none. -/
def angledArguments (g : Rules) : Reader (Trees × Bool) := do
  let opening ← mark "<"
  let entries ← looping (fun entries => do
    if ← peek (startsMark ">") then return (entries, false)
    let (found, leads) ← genericArgument g
    if ← peek (startsMark ">") then return (entries ++ [⟨leads, found, false⟩], false)
    let _ ← mark ","
    return (entries ++ [⟨leads, found, true⟩], true)) []
  let closing ← mark ">"
  return (opening ++ Listed.printAll entries ++ closing, entries.isEmpty)

/-! ## Paths -/

/-- An identifier of a path with its arguments, and whether it has none. -/
structure Segment where
  identifier : Trees
  arguments : Trees
  bare : Bool

/-- One identifier of a path and its arguments. -/
def segment (g : Rules) (inExpression : Bool) : Reader Segment := do
  if ← peek (startsOneOf pathWords) then
    return ⟨[← next], [], true⟩
  let identifier ← one fun ts => startsWord "Self" ts || startsName ts
  let ts ← get
  if !inExpression && startsMark "<" ts && !startsMark "<=" ts && !startsMark "<<=" ts then
    let (arguments, isEmpty) ← angledArguments g
    return ⟨identifier, arguments, isEmpty⟩
  if startsMark "::" ts && startsMark "<" (ts.drop 2) then
    let colons ← mark "::"
    let (arguments, isEmpty) ← angledArguments g
    return ⟨identifier, colons ++ arguments, isEmpty⟩
  return ⟨identifier, [], true⟩

/-- A path that goes on with one more identifier. -/
def PathPiece.extend (p : PathPiece) (colons : Trees) (s : Segment) : PathPiece where
  front := p.trees ++ colons ++ s.identifier
  arguments := s.arguments
  bare := s.bare
  plain := p.plain && s.arguments.isEmpty
  single := false
  qualified := p.qualified

/-- Goes on with a path as long as `::` follows, but not before parentheses. -/
def restOfPath (g : Rules) (inExpression : Bool) (p : PathPiece) :
    Reader PathPiece :=
  looping (fun p => do
    let ts ← get
    if startsMark "::" ts && !startsGroup .parenthesis (ts.drop 2) then
      let colons ← mark "::"
      return (p.extend colons (← segment g inExpression), true)
    return (p, false)) p

/-- A path that does not start at a type between angle brackets. -/
def path (g : Rules) (inExpression : Bool) : Reader PathPiece := do
  let lead ← optionalMark "::"
  let s ← segment g inExpression
  restOfPath g inExpression
    ⟨lead ++ s.identifier, s.arguments, s.bare, s.arguments.isEmpty, lead.isEmpty, false⟩

/-- A path, which may start at a type between angle brackets: `<T>::A`, `<T as B>::A`. -/
def qualifiedPath (g : Rules) (inExpression : Bool) :
    Reader PathPiece := do
  if !(← peek (startsMark "<")) then
    path g inExpression
  else
    let opening ← mark "<"
    let type ← g.typeTrees
    let trait ←
      if ← peek (startsWord "as") then do
        let as ← word "as"
        pure (as ++ (← path g false).trees)
      else pure []
    let closing ← mark ">"
    let start : PathPiece := ⟨opening ++ type ++ trait ++ closing, [], true, false, false, true⟩
    let p := start.extend (← mark "::") (← segment g inExpression)
    looping (fun p => do
      if ← peek (startsMark "::") then
        let colons ← mark "::"
        return (p.extend colons (← segment g inExpression), true)
      return (p, false)) p

end SequenceKit.Grammar
