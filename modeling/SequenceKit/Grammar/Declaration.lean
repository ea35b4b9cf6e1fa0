import SequenceKit.Grammar.Declaration.Member
import SequenceKit.Grammar.Declaration.Use
import SequenceKit.Grammar.Item

/-!
# Declarations

What may be declared within a block or a module: functions, imports, variables, constants, types,
traits and their implementations, modules, foreign blocks and macros.

* `traitDeclaration`, `implementation`, `foreignBlock`, `module`, … — the kinds of declarations.
* **`declarationRule`** — a declaration with its attributes.
-/

namespace SequenceKit.Grammar

open SequenceKit.Source SequenceKit.Generics

/-! ## Variables and crates -/

/-- A variable.  It is regular with a type and a value. -/
def variableDeclaration (g : Rules) : Reader DeclarationPiece := do
  let static ← word "static"
  let access ← optional (startsWord "mut")
  let label ← name
  let typed ← peek (startsMark ":")
  let type ← if typed then do
      let colon ← mark ":"
      pure (colon ++ (← g.typeTrees))
    else pure []
  let value ← value? g.expression
  let semicolon ← mark ";"
  if !typed && value.isNone then failure
  return ⟨static ++ access ++ label ++ type ++ valueBehind value ++ semicolon,
    typed && value.isSome⟩

/-- The declaration of a foreign crate. -/
def crateDeclaration : Reader Trees := do
  let external ← word "extern"
  let crate ← word "crate"
  let label ← one fun ts => startsName ts || startsWord "self" ts
  let rename ← renamed
  return external ++ crate ++ label ++ rename ++ (← mark ";")

/-! ## Traits and implementations -/

/-- A trait, or another name for bounds, which no word stands before. -/
def traitDeclaration (g : Rules) : Reader Trees := do
  let unsafety ← optional (startsWord "unsafe")
  let auto ← optional (startsWord "auto")
  let trait ← word "trait"
  let label ← name
  let parameters ← parameterList g
  let head := unsafety ++ auto ++ trait ++ label ++ printParameters parameters
  if unsafety.isEmpty && auto.isEmpty && (← peek (startsMark "=")) then
    let equal ← mark "="
    let ends := fun ts => startsWord "where" ts || startsMark ";" ts
    let bounds ← boundsUntil ends do return (← g.bound false false).trees
    let clause ← whereClause g
    return head ++ equal ++ bounds ++ printWhere clause ++ (← mark ";")
  let ends := fun ts => startsWord "where" ts || startsGroup .brace ts
  let bounds ← bounds? (boundsUntil ends g.plainBound)
  let clause ← whereClause g
  return head ++ boundsBehind bounds ++ printWhere clause ++ (← members g (traitMember g))

/-- Whether the word of a constant implementation comes next. -/
def startsConstantMark (ts : Trees) : Bool :=
  startsWord "const" ts || (startsMark "?" ts && startsWord "const" (ts.drop 1))

/-- The trait that is implemented and the type that implements it, or that type alone.  It is
regular if the trait is a path; a type alone takes no exclamation mark. -/
def implementedType (g : Rules) : Reader DeclarationPiece := do
  let negated ← peek fun ts => startsMark "!" ts && !startsGroup .brace (ts.drop 1)
  let polarity ← if negated then mark "!" else pure []
  let first ← g.type true
  if ← peek (startsWord "for") then
    let for_ ← word "for"
    let self ← g.typeTrees
    let isTrait := match first.form with
      | .name | .path => true
      | _ => false
    return ⟨polarity ++ first.trees ++ for_ ++ self, isTrait⟩
  if negated then failure
  return { trees := first.trees }

/-- An implementation behind its visibility. -/
def implementation (g : Rules) : Reader DeclarationPiece := do
  let default ← optional (startsWord "default")
  let unsafety ← optional (startsWord "unsafe")
  let impl ← word "impl"
  let parameters ← if ← peek startsParameterList then parameterList g else pure []
  let isConstant ← peek startsConstantMark
  if isConstant then
    let _ ← optionalMark "?"
    let _ ← word "const"
  let type ← implementedType g
  let clause ← whereClause g
  let body ← members g (implMember g)
  return ⟨default ++ unsafety ++ impl ++ printParameters parameters ++ type.trees ++
    printWhere clause ++ body, type.regular && !isConstant⟩

/-! ## Modules and foreign blocks -/

/-- A module, with what it declares or without. -/
def moduleDeclaration (g : Rules) : Reader Trees := do
  let unsafety ← optional (startsWord "unsafe")
  let mod ← word "mod"
  let label ← one fun ts => startsName ts || startsWord "try" ts
  let head := unsafety ++ mod ++ label
  if ← peek (startsMark ";") then return head ++ (← mark ";")
  return head ++ (← members g g.declaration)

/-- A block of foreign declarations. -/
def foreignBlock (g : Rules) : Reader Trees := do
  let unsafety ← optional (startsWord "unsafe")
  require (startsWord "extern")
  let external ← convention
  return unsafety ++ external ++ (← members g (foreignMember g))

/-- The definition of a macro.  What it holds is not looked at. -/
def macroDefinition : Reader Trees := do
  let word_ ← word "macro"
  let label ← name
  let inputs ← optional (startsGroup .parenthesis)
  return word_ ++ label ++ inputs ++ (← one (startsGroup .brace))

/-! ## All declarations -/

/-- A function; without a body it stays as it is written. -/
def functionDeclaration (g : Rules) : Reader DeclarationPiece := do
  let (head, _) ← signature g false
  let isOpen ← peek (startsMark ";")
  let body ← if isOpen then mark ";" else g.block true
  return ⟨head ++ body, !isOpen⟩

/-- A type; it is regular with a value and without bounds. -/
def typeDeclaration (g : Rules) : Reader DeclarationPiece := do
  let a ← typeAlias g .beforeValue
  return ⟨a.head ++ a.clause ++ valueBehind a.value ++ words ";", a.value.isSome && !a.hasColon⟩

/-- Whether a trait comes next, with the words before it. -/
def startsTrait (ts : Trees) : Bool :=
  let ts := behindOptional (startsWord "unsafe") ts
  startsWord "trait" ts || (startsWord "auto" ts && startsWord "trait" (ts.drop 1))

/-- A declaration behind its attributes and its visibility. -/
def declarationBehind (g : Rules) (scope : Trees) : Reader DeclarationPiece := do
  let ts ← get
  let behind := behindOptional (startsWord "unsafe") ts
  let visible := fun (piece : DeclarationPiece) => { piece with trees := scope ++ piece.trees }
  if startsSignature false ts then return visible (← functionDeclaration g)
  else if startsWord "extern" ts && startsWord "crate" (ts.drop 1) then
    return { trees := scope ++ (← crateDeclaration) }
  else if startsWord "extern" behind then
    if scope.isEmpty then return { trees := ← foreignBlock g } else failure
  else if startsWord "use" ts then
    let use ← word "use"
    let trees ← useTree
    return { trees := scope ++ use ++ trees ++ (← mark ";") }
  else if startsWord "static" ts then return visible (← variableDeclaration g)
  else if startsWord "const" ts then return visible (← constant g true)
  else if startsTrait ts then return { trees := scope ++ (← traitDeclaration g) }
  else if startsWord "mod" behind then return { trees := scope ++ (← moduleDeclaration g) }
  else if startsWord "type" ts then return visible (← typeDeclaration g)
  else if startsWord "impl" behind ||
      (startsWord "default" ts && !startsMark "!" (ts.drop 1)) then
    let piece ← implementation g
    return { piece with regular := piece.regular && scope.isEmpty }
  else if startsWord "macro" ts then
    return { trees := scope ++ (← macroDefinition), regular := false }
  else if scope.isEmpty && startsMacroCall ts then return { trees := ← macroCall true }
  else failure

/-- Whether a data type comes next, behind its attributes and its visibility; the word `union` may
as well be a name. -/
def startsDataType (ts : Trees) : Bool :=
  startsOneOf ["struct", "enum"] ts || (startsWord "union" ts && startsName (ts.drop 1))

/-- A declaration with its attributes. -/
def declarationRule (g : Rules) : Reader Trees := do
  let start ← get
  let attributes ← outerAttributes g
  let scope ← visibility
  if ← peek startsDataType then
    return (← itemBehind g attributes scope).print
  let piece ← declarationBehind g scope
  ({ piece with trees := attributes ++ piece.trees } : DeclarationPiece).orSince start

end SequenceKit.Grammar
