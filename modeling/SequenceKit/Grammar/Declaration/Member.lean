import SequenceKit.Grammar.Declaration.Function

/-!
# Members of declarations

The functions, constants, types and macro calls within traits, implementations and foreign
blocks, and what constants and types have in common with those outside.  Forms that only some later
stage could refuse are read, too; they stay as they are written.

* `constant`, `typeAlias` — a constant and a type with all that they may have.
* `macroCall` — a macro call in the place of a declaration.
* `traitMember`, `implMember`, `foreignMember` — one member.
* **`members`** — all members of a block.
-/

namespace SequenceKit.Grammar

open SequenceKit.Source SequenceKit.Generics

/-! ## Pieces -/

/-- A declaration that was read. -/
structure DeclarationPiece where
  trees : Trees
  /-- Whether it has only what its place allows. -/
  regular : Bool := true

/-- A declaration: what was read if that is regular, and the tokens since `start` otherwise. -/
def DeclarationPiece.orSince (piece : DeclarationPiece) (start : Trees) : Reader Trees :=
  if piece.regular then return piece.trees else since start

/-- A constant from its first word on.  It is regular without generic parameters, and with a value
unless that may be missing. -/
def constant (g : Rules) (needsValue : Bool) : Reader DeclarationPiece := do
  let const ← word "const"
  let label ← one fun ts => startsName ts || startsWord "_" ts
  let generic ← peek (startsMark "<")
  let _ ← parameterList g
  let colon ← mark ":"
  let type ← g.typeTrees
  let value ← value? g.expression
  let clause ← peek (startsWord "where")
  let _ ← whereClause g
  let semicolon ← mark ";"
  return ⟨const ++ label ++ colon ++ type ++ valueBehind value ++ semicolon,
    !generic && !clause && (value.isSome || !needsValue)⟩

/-- Where the where clause of a type stands. -/
inductive ClausePlace where
  | beforeValue
  | behindValue
  | either
  deriving DecidableEq

/-- A type from its first word on, with its bounds and its value. -/
structure AliasPiece where
  head : Trees
  hasColon : Bool
  bounds : Trees
  value : Option Trees
  clause : Trees

/-- A type from its first word to its semicolon. -/
def typeAlias (g : Rules) (place : ClausePlace) : Reader AliasPiece := do
  let type ← word "type"
  let label ← name
  let parameters ← parameterList g
  let hasColon ← peek (startsMark ":")
  let ends := fun ts => startsWord "where" ts || startsMark "=" ts || startsMark ";" ts
  let bounds ← bounds? (boundsUntil ends g.plainBound)
  let hasEarly ← peek (startsWord "where")
  let early ← if place ≠ .behindValue then whereClause g else pure []
  let value ← value? g.typeTrees
  let takesLate := place = .behindValue || (place = .either && !hasEarly)
  let late ← if takesLate then whereClause g else pure []
  let _ ← mark ";"
  return ⟨type ++ label ++ printParameters parameters, hasColon, bounds, value,
    printWhere (early ++ late)⟩

/-- A macro call in the place of a declaration; without braces a semicolon follows.  If `named`
holds, a name may stand before its group. -/
def macroCall (named : Bool) : Reader Trees := do
  let path ← plainPath
  let bang ← mark "!"
  let label ←
    if named then optional fun ts => startsName ts || startsWord "try" ts else pure []
  let needsSemicolon ← peek fun ts => !startsGroup .brace ts
  let body ← anyGroup
  let semicolon ← if needsSemicolon then mark ";" else pure []
  return path ++ bang ++ label ++ body ++ semicolon

/-- Whether a macro call may come next in the place of a declaration. -/
def startsMacroCall (ts : Trees) : Bool :=
  startsName ts || startsOneOf ["self", "super", "crate"] ts || startsMark "::" ts

/-! ## Members -/

/-- A member of a trait. -/
def traitMember (g : Rules) : Reader Trees := do
  let start ← get
  let attributes ← outerAttributes g
  let scope ← visibility
  let default ← optional (startsWord "default")
  let plain := scope.isEmpty && default.isEmpty
  let ts ← get
  let piece : DeclarationPiece ←
    if startsSignature false ts then do
      let (head, _) ← signature g false
      let body ← if ← peek (startsGroup .brace) then g.block true else mark ";"
      pure { trees := head ++ body }
    else if startsWord "const" ts then constant g false
    else if startsWord "type" ts then do
      let a ← typeAlias g .behindValue
      let bounds := boundsBehind a.bounds
      pure { trees := a.head ++ bounds ++ valueBehind a.value ++ a.clause ++ words ";" }
    else if plain && startsMacroCall ts then do
      pure { trees := ← macroCall false }
    else failure
  ({ trees := attributes ++ piece.trees, regular := piece.regular && plain } :
    DeclarationPiece).orSince start

/-- A member of an implementation. -/
def implMember (g : Rules) : Reader Trees := do
  let start ← get
  let attributes ← outerAttributes g
  let scope ← visibility
  let default ← optional fun ts => startsWord "default" ts && !startsMark "!" (ts.drop 1)
  let ts ← get
  let piece : DeclarationPiece ←
    if startsSignature false ts then do
      let (head, _) ← signature g false
      let isOpen ← peek (startsMark ";")
      let body ← if isOpen then mark ";" else g.block true
      pure ⟨head ++ body, !isOpen⟩
    else if startsWord "const" ts then constant g true
    else if startsWord "type" ts then do
      let a ← typeAlias g .behindValue
      pure ⟨a.head ++ valueBehind a.value ++ a.clause ++ words ";", a.value.isSome && !a.hasColon⟩
    else if scope.isEmpty && default.isEmpty && startsMacroCall ts then do
      pure { trees := ← macroCall false }
    else failure
  ({ piece with trees := attributes ++ scope ++ default ++ piece.trees } :
    DeclarationPiece).orSince start

/-- A foreign variable behind its visibility. -/
def foreignVariable (g : Rules) : Reader DeclarationPiece := do
  let safety ← optional (startsOneOf ["unsafe", "safe"])
  let static ← word "static"
  let access ← optional (startsWord "mut")
  let label ← name
  let colon ← mark ":"
  let type ← g.typeTrees
  let value ← value? g.expression
  let semicolon ← mark ";"
  return ⟨static ++ access ++ label ++ colon ++ type ++ semicolon,
    safety.isEmpty && value.isNone⟩

/-- A member of a foreign block. -/
def foreignMember (g : Rules) : Reader Trees := do
  let start ← get
  let attributes ← outerAttributes g
  let scope ← visibility
  let ts ← get
  let isVariable := startsWord "static" ts ||
    (startsOneOf ["unsafe", "safe"] ts && startsWord "static" (ts.drop 1))
  let piece : DeclarationPiece ←
    if startsSignature true ts then do
      let (head, isSafe) ← signature g true
      let hasBody ← peek (startsGroup .brace)
      let body ← if hasBody then g.block true else mark ";"
      pure ⟨head ++ body, !isSafe && !hasBody⟩
    else if isVariable then foreignVariable g
    else if startsWord "type" ts then do
      let a ← typeAlias g .either
      pure ⟨a.head ++ a.clause ++ words ";", a.value.isNone && !a.hasColon⟩
    else if scope.isEmpty && startsMacroCall ts then do
      pure { trees := ← macroCall false }
    else failure
  ({ piece with trees := attributes ++ scope ++ piece.trees } : DeclarationPiece).orSince start

/-- The members between braces, behind attributes inside. -/
def members (g : Rules) (member : Reader Trees) : Reader Trees :=
  within .brace do
    let inner ← innerAttributes g
    let found ← gather do
      if ← atEnd then return ([], false)
      return (← member, true)
    return inner ++ found

end SequenceKit.Grammar
