import SequenceKit.Grammar.Expression

/-!
# Statements and blocks

* `binding` — a binding with `let`.
* `startsDeclaration` — whether a declaration comes next in the place of a statement.
* `statement` — a statement, and whether a semicolon may be missing behind it.
* **`blockRule`** — a block.
-/

namespace SequenceKit.Grammar

open SequenceKit.Source SequenceKit.Expression

/-! ## Bindings -/

/-- A binding with `let`.  A value that ends with a brace cannot be followed by `else`. -/
def binding (g : Rules) : Reader Trees := do
  let let_ ← word "let"
  let pattern ← g.pattern
  let type ←
    if ← peek (startsMark ":") then do
      let colon ← mark ":"
      pure (colon ++ (← g.typeTrees))
    else pure []
  let value ←
    if ← peek (startsMark "=") then do
      let equal ← mark "="
      let e ← g.wholeExpression true
      let otherwise ←
        if !e.endsWithBrace && (← peek (startsWord "else")) then do
          let else_ ← word "else"
          pure (else_ ++ (← g.block false))
        else pure []
      pure (equal ++ e.print .free ++ otherwise)
    else pure []
  return let_ ++ pattern.trees ++ type ++ value ++ (← mark ";")

/-! ## Macro calls -/

/-- What a macro call is where a statement starts. -/
inductive MacroPlace where
  /-- The declaration of a name, `path! name`. -/
  | declaration
  /-- A statement of its own, with braces and nothing that goes on with it. -/
  | statement
  | none

/-- Where a macro call stands, if one comes next. -/
def macroPlace (ts : Trees) : MacroPlace :=
  match behind? plainPath ts with
  | some behind =>
      let called := behind.drop 1
      if !startsMark "!" behind then .none
      else if startsName called || startsWord "try" called then .declaration
      else if startsGroup .brace called && !startsTrailer (called.drop 1) then .statement
      else .none
  | none => .none

/-- A macro call with braces as a statement, with its semicolon if it has one. -/
def macroStatement : Reader Trees := do
  let path ← plainPath
  let bang ← mark "!"
  let body ← anyGroup
  return path ++ bang ++ body ++ (← optionalMark ";")

/-! ## Declarations in the place of statements -/

/-- Whether a constant declaration or a constant function comes next, and no closure or block. -/
def startsConstant (ts : Trees) : Bool :=
  let behind := ts.drop 1
  startsWord "const" ts &&
    !(startsGroup .brace behind || startsOneOf ["static", "move"] behind ||
      startsMark "|" behind ||
      (startsWord "async" behind && !startsOneOf ["unsafe", "extern", "fn"] (behind.drop 1)))

/-- Whether a declaration comes next in the place of a statement, macro calls apart. -/
def startsDeclaration (ts : Trees) : Bool :=
  let behind := ts.drop 1
  startsOneOf ["pub", "extern", "use", "fn", "mod", "type", "struct", "enum", "trait", "impl",
      "macro"] ts ||
    (startsWord "crate" ts && !startsMark "::" behind) ||
    (startsWord "static" ts && (startsWord "mut" behind || startsName behind)) ||
    startsConstant ts ||
    (startsWord "unsafe" ts && !startsGroup .brace behind) ||
    (startsWord "async" ts && startsOneOf ["unsafe", "extern", "fn"] behind) ||
    (startsWord "union" ts && startsName behind) ||
    (startsWord "auto" ts && startsWord "trait" behind) ||
    (startsWord "default" ts && startsOneOf ["unsafe", "impl"] behind)

/-! ## Statements -/

/-- An expression as a statement, behind its attributes. -/
def expressionStatement (g : Rules) (attributes : Trees) : Reader (Trees × Bool) := do
  let e := (← g.early).withLeftmostAttributes attributes
  let semicolon ← optionalMark ";"
  return (e.print .ofStatement ++ semicolon, !semicolon.isEmpty || !e.needsSemicolon)

/-- A statement and whether a semicolon may be missing behind it. -/
def statement (g : Rules) : Reader (Trees × Bool) := do
  let start ← get
  let attributes ← outerAttributes g
  let ts ← get
  let declaration := do
    set start
    return (← g.declaration, true)
  match macroPlace ts with
  | .declaration => declaration
  | .statement => return (attributes ++ (← macroStatement), true)
  | .none =>
      if startsWord "let" ts then return (attributes ++ (← binding g), true)
      else if startsDeclaration ts then declaration
      else expressionStatement g attributes

/-- The inside of a block: statements, of which the last may be an expression. -/
def statements (g : Rules) : Reader Trees :=
  gather do
    if ← atEnd then return ([], false)
    if ← peek (startsMark ";") then return (← mark ";", true)
    let (found, complete) ← statement g
    if ← atEnd then return (found, false)
    if complete then return (found, true) else failure

/-- A block; `attributes` says whether attributes may stand inside. -/
def blockRule (g : Rules) (attributes : Bool) : Reader Trees :=
  within .brace do
    let inner ← if attributes then innerAttributes g else pure []
    return inner ++ (← statements g)

end SequenceKit.Grammar
