import SequenceKit.Grammar.Generics

/-!
# Types and bounds

How the types of source text are read: paths, tuples, arrays and slices, references and pointers,
functions, bounds, and the types of a single character.  Nothing is kept of a type but its trees,
its form and how it ends.

* `boundRule` — one bound: a lifetime, a capture, or a path, possibly in parentheses.
* **`typeRule`** — a type.
-/

namespace SequenceKit.Grammar

open SequenceKit.Source SequenceKit.Generics SequenceKit.Expression

/-! ## Functions -/

/-- A type behind an arrow, and how it ends; `plus` says whether it may go on with further
bounds. -/
def output (g : Rules) (plus : Bool) : Reader (Trees × TypeEnding) := do
  if ← peek (startsMark "->") then
    let arrow ← mark "->"
    let type ← g.type plus
    return (arrow ++ type.trees, type.ending)
  else
    return ([], .other)

/-- The inputs and the output of a function-like bound, `(A, B) -> C`. -/
def parenthesizedArguments (g : Rules) : Reader (Trees × TypeEnding) := do
  let inputs ← within .parenthesis (listed g.typeTrees)
  let (type, ending) ← output g false
  return (inputs ++ type, ending)

/-- How a type ends that is a path. -/
def PathPiece.ending (p : PathPiece) : TypeEnding :=
  if p.arguments.isEmpty then .path else .other

/-- How a type or a bound ends that stays as it is written. -/
def endingOf (trees : Trees) : TypeEnding :=
  if endWithBrace trees then .brace else .other

/-- Whether arguments in parentheses follow a path, possibly behind `::`. -/
def startsParenthesized (ts : Trees) : Bool :=
  startsGroup .parenthesis ts || (startsMark "::" ts && startsGroup .parenthesis (ts.drop 2))

/-- The path of a bound, whose last identifier may have arguments in parentheses.  They take the
place of empty angle brackets, and of the `::` before them nothing stays. -/
def traitPath (g : Rules) : Reader (Trees × TypeEnding) := do
  let p ← path g false
  if p.bare && startsParenthesized (← get) then
    let _ ← optionalMark "::"
    let (arguments, ending) ← parenthesizedArguments g
    return (p.front ++ arguments, ending)
  else
    return (p.trees, p.ending)

/-! ## Bounds -/

/-- The scope of captured lifetimes and parameters: `use<'a, T>`. -/
def capture : Reader Trees := do
  let use ← word "use"
  let opening ← mark "<"
  let entries ← looping (fun (entries : List Listed) => do
    if ← peek (startsMark ">") then return (entries, false)
    let leads ← peek startsLifetime
    let entry ← one fun ts => startsLifetime ts || startsName ts || startsWord "Self" ts
    if ← peek (startsMark ">") then return (entries ++ [⟨leads, entry, false⟩], false)
    let _ ← mark ","
    return (entries ++ [⟨leads, entry, true⟩], true)) []
  return use ++ opening ++ Listed.printAll entries ++ (← mark ">")

/-- Whether the mark of a bound that is constant where its user is comes next, `[const]`. -/
def startsConstMark : Trees → Bool
  | .group .bracket [.word "const"] :: _ => true
  | _ => false

/-- A bound that is a path, with its binder and what stands before the path, and whether it is
constant.  A lifted bound, `?Sized`, takes no binder. -/
def pathBound (g : Rules) (constant : Bool) : Reader (BoundPiece × Bool) := do
  let bind ← optionalBinder g
  let constness ←
    if constant then optional fun ts => startsWord "const" ts || startsConstMark ts
    else pure []
  let lifted ← optionalMark "?"
  if !bind.isEmpty && !lifted.isEmpty then failure
  let (p, ending) ← traitPath g
  return (⟨bind ++ constness ++ lifted ++ p, true, ending⟩, !constness.isEmpty)

/-- One bound.  A constant one stays as it is written. -/
def boundRule (g : Rules) (captures constant : Bool) : Reader BoundPiece := do
  let start ← get
  if startsLifetime start then return { trees := ← lifetime }
  else if startsWord "use" start then
    if captures then return { trees := ← capture } else failure
  else
    let grouped := startsGroup .parenthesis start
    let (bound, isConstant) ←
      if grouped then inside .parenthesis (pathBound g constant) else pathBound g constant
    if isConstant then
      let trees ← since start
      return ⟨trees, true, endingOf trees⟩
    return { bound with trees := if grouped then parens bound.trees else bound.trees }

/-- Whether another bound can come next. -/
def startsBound (constant : Bool) (ts : Trees) : Bool :=
  startsAnyWord ts || startsMark "::" ts || startsMark "?" ts || startsLifetime ts ||
    startsGroup .parenthesis ts || (constant && startsGroup .bracket ts)

/-- Bounds joined by plus signs; the last may be followed by one, too.  As a bound they name a trait
if one of them does. -/
def joinedBounds (g : Rules) (plus captures constant : Bool) : Reader BoundPiece :=
  looping (fun (piece : BoundPiece) => do
    let bound ← g.bound captures constant
    let piece : BoundPiece :=
      ⟨piece.trees ++ bound.trees, piece.isTrait || bound.isTrait, bound.ending⟩
    if plus && (← peek (startsMark "+")) then
      let sign ← mark "+"
      return ({ piece with trees := piece.trees ++ sign }, ← peek (startsBound constant))
    return (piece, false)) { trees := [] }

/-- Bounds of which one at least has to name a trait, as a type. -/
def traitBounds (g : Rules) (plus captures constant : Bool) : Reader TypePiece := do
  let piece ← joinedBounds g plus captures constant
  if piece.isTrait then
    return { trees := piece.trees, form := .bounds none, ending := piece.ending }
  else failure

/-- Further bounds behind a first one: a plus sign and a bound, any number of times.  If `open_`
holds, a last plus sign may stand alone. -/
def furtherBounds (g : Rules) (open_ : Bool) (first : BoundPiece) : Reader BoundPiece :=
  looping (fun (piece : BoundPiece) => do
    if ← peek (startsMark "+") then
      let sign ← mark "+"
      if open_ && !(← peek (startsBound false)) then
        return ({ piece with trees := piece.trees ++ sign }, false)
      let bound ← g.bound false false
      return ({ bound with trees := piece.trees ++ sign ++ bound.trees }, true)
    return (piece, false)) first

/-! ## Function types -/

/-- The arguments that a function takes beyond the named ones, `...`. -/
def variadic : Reader Trees := do
  let named ← if ← peek (startsMark "...") then pure [] else do
    let label ← one startsAnyWord
    pure (label ++ (← mark ":"))
  let dots ← mark "..."
  return named ++ dots ++ (← optionalMark ",")

/-- Whether an argument starts with a label and a colon. -/
def startsLabel (self : Bool) (ts : Trees) : Bool :=
  (startsName ts || startsWord "_" ts || (self && startsWord "self" ts)) &&
    startsMark ":" (ts.drop 1) && !startsMark "::" (ts.drop 1)

/-- Whether `mut self` comes next. -/
def startsMutSelf (ts : Trees) : Bool :=
  startsWord "mut" ts && startsWord "self" (ts.drop 1)

/-- One argument of a function type; `self` says whether it is the first.  One that is about a
value that can be written to stays as it is written. -/
def functionInput (g : Rules) (self : Bool) : Reader Trees := do
  let start ← get
  let write := self && startsMutSelf start
  let _ ← if write then word "mut" else pure []
  let labelled ← peek (startsLabel self)
  let labelIsSelf := labelled && startsWord "self" (← get)
  let label ← if labelled then do
      let label ← next
      pure (label :: (← mark ":"))
    else pure []
  if self && !labelIsSelf && (← peek startsMutSelf) then
    let _ ← word "mut"
    let _ ← word "self"
    since start
  else if write && !labelled then
    let _ ← word "self"
    since start
  else
    let type ← g.typeTrees
    if write then since start else return label ++ type

/-- The arguments of a function type, `...` at the end included. -/
def functionInputs (g : Rules) : Reader Trees :=
  looping (fun found => do
    if ← atEnd then return (found, false)
    let attributes ← outerAttributes g
    let ts ← get
    let isVariadic :=
      startsMark "..." ts ||
        ((startsName ts || startsWord "_" ts) && startsMark ":" (ts.drop 1) &&
          startsMark "..." (ts.drop 2))
    if isVariadic then
      return (found ++ attributes ++ (← variadic), false)
    let input ← functionInput g found.isEmpty
    if ← atEnd then return (found ++ attributes ++ input, false)
    return (found ++ attributes ++ input ++ (← mark ","), true)) []

/-- The calling convention of a function, if it has one. -/
def convention : Reader Trees := do
  let external ← optional (startsWord "extern")
  if external.isEmpty then return []
  return external ++ (← optional startsString)

/-- A function type behind its binder. -/
def functionType (g : Rules) : Reader TypePiece := do
  let safety ← optional (startsWord "unsafe")
  let external ← convention
  let fn ← word "fn"
  let inputs ← within .parenthesis (functionInputs g)
  let (type, ending) ← output g false
  return { trees := safety ++ external ++ fn ++ inputs ++ type, ending }

/-! ## The forms of a type -/

/-- What stands between parentheses in the place of a type. -/
inductive ParenthesizedForm where
  /-- A tuple, or bounds that start with a lifetime: nothing is joined to it. -/
  | closed
  /-- A lifted bound, to which others may be joined. -/
  | lifted (ending : TypeEnding)
  /-- A type on its own. -/
  | type (form : TypeForm) (ending : TypeEnding)

/-- The inside of parentheses in the place of a type. -/
def parenthesizedInside (g : Rules) : Reader (Trees × ParenthesizedForm) := do
  if ← atEnd then return ([], .closed)
  if ← peek startsLifetime then
    return ((← traitBounds g true false false).trees, .closed)
  if ← peek (startsMark "?") then
    let (bound, _) ← pathBound g false
    return (bound.trees, .lifted bound.ending)
  let first ← g.type true
  if ← peek (startsMark ",") then
    let comma ← mark ","
    return (first.trees ++ comma ++ (← listed g.typeTrees), .closed)
  return (first.trees, .type first.form first.ending)

/-- A type between parentheses.  If it is a path or a single bound, further bounds may follow; the
parentheses are then those of the bound. -/
def parenthesizedType (g : Rules) (plus : Bool) : Reader TypePiece := do
  let (inner, form) ← inside .parenthesis (parenthesizedInside g)
  let join := fun (bound : Trees) (ending : TypeEnding) => do
    let piece ← furtherBounds g false ⟨parens bound, true, ending⟩
    let single := if piece.trees.length = 1 then some bound else none
    return (⟨piece.trees, .bounds single, piece.ending⟩ : TypePiece)
  let joins := plus && (← peek (startsMark "+"))
  match form with
  | .lifted ending => join inner ending
  | .type .name ending | .type .path ending =>
      if joins then join inner ending else return { trees := parens inner }
  | .type (.bounds (some bound)) ending =>
      if joins then join bound ending else return { trees := parens inner }
  | _ => return { trees := parens inner }

/-- A type that starts with a path: a macro call, bounds, or the path itself. -/
def pathType (g : Rules) (plus : Bool) (bind : Trees) : Reader TypePiece := do
  let p ← qualifiedPath g false
  if p.qualified then
    return { trees := p.trees, ending := p.ending }
  let ts ← get
  if startsMark "!" ts && !startsMark "!=" ts && p.plain then
    let bang ← mark "!"
    let trees := p.trees ++ bang ++ (← anyGroup)
    return { trees, ending := endingOf trees }
  if !bind.isEmpty || (plus && startsMark "+" ts) then
    let first := bind ++ p.trees
    let joins := plus && startsMark "+" ts
    let piece ← if joins then furtherBounds g true ⟨first, true, p.ending⟩
      else pure ⟨first, true, p.ending⟩
    return ⟨piece.trees, .bounds (if joins then none else some first), piece.ending⟩
  return ⟨p.trees, if p.single then .name else .path, p.ending⟩

/-- A slice or an array. -/
def bracketedType (g : Rules) : Reader Trees :=
  within .bracket do
    let element ← g.typeTrees
    if ← atEnd then return element
    let semicolon ← mark ";"
    return element ++ semicolon ++ (← g.expression)

/-- A pointer. -/
def pointerType (g : Rules) : Reader TypePiece := do
  let star ← mark "*"
  let access ← one (startsOneOf ["const", "mut"])
  let element ← g.type false
  return { trees := star ++ access ++ element.trees, ending := element.ending }

/-- A reference. -/
def referenceType (g : Rules) : Reader TypePiece := do
  let sign ← mark "&"
  let scope ← optional startsLifetime
  let access ← optional (startsWord "mut")
  let element ← g.type false
  return { trees := sign ++ scope ++ access ++ element.trees, ending := element.ending }

/-- Bounds behind `dyn`; with a star they stay as they are written. -/
def dynamicType (g : Rules) (plus : Bool) : Reader TypePiece := do
  let start ← get
  let dyn ← word "dyn"
  let star ← optionalMark "*"
  let bounds ← traitBounds g plus false false
  if star.isEmpty then
    return { trees := dyn ++ bounds.trees, ending := bounds.ending }
  let trees ← since start
  return { trees, ending := endingOf trees }

/-- Whether a path comes next in the place of a type. -/
def startsPath (ts : Trees) : Bool :=
  startsPathWord ts || startsMark "::" ts || startsMark "<" ts

/-- Whether a function type comes next, behind its binder. -/
def startsFunction (ts : Trees) : Bool :=
  startsOneOf ["fn", "unsafe", "extern"] ts

/-- Whether a construct of the compiler comes next, `builtin # name (…)`. -/
def startsBuiltin (ts : Trees) : Bool :=
  startsWord "builtin" ts && startsMark "#" (ts.drop 1)

/-- A construct of the compiler.  What its parentheses hold is not looked at. -/
def builtin : Reader Trees := do
  let word_ ← word "builtin"
  let pound ← mark "#"
  let label ← name
  return word_ ++ pound ++ label ++ (← one (startsGroup .parenthesis))

/-- A type. -/
def typeRule (g : Rules) (plus : Bool) : Reader TypePiece := do
  let start ← get
  let bind ← optionalBinder g
  let ts ← get
  if !bind.isEmpty && !(startsPathWord ts || startsFunction ts) then failure
  if startsGroup .parenthesis ts then parenthesizedType g plus
  else if startsFunction ts then
    let function ← functionType g
    return { function with trees := bind ++ function.trees }
  else if startsBuiltin ts then
    let _ ← builtin
    return { trees := ← since start }
  else if startsPath ts then pathType g plus bind
  else if startsWord "dyn" ts then dynamicType g plus
  else if startsGroup .bracket ts then return { trees := ← bracketedType g }
  else if startsMark "*" ts then pointerType g
  else if startsMark "&" ts then referenceType g
  else if startsMark "!" ts then return { trees := ← mark "!" }
  else if startsWord "impl" ts then
    let impl ← word "impl"
    let bounds ← traitBounds g plus true true
    return { trees := impl ++ bounds.trees, ending := bounds.ending }
  else if startsWord "_" ts then return { trees := ← word "_" }
  else if startsLifetime ts then traitBounds g true false false
  else failure

end SequenceKit.Grammar
