import SequenceKit.Grammar.Compound
import SequenceKit.Grammar.Operator

/-!
# Single operands

What can stand between operators, without signs before it and without what hangs on to it:
literals, paths, structures, closures, jumps, groups, ranges, and what ends with a block.

* `startsExpression` — whether an expression can start here.
* `closure`, `jump`, `prefixRange` — operands that reach as far as they can.
* `rightOperand` — the right operand of an operator.
* **`atom`** — a single operand.
-/

namespace SequenceKit.Grammar

open SequenceKit.Source SequenceKit.Expression

/-- An expression of no special form. -/
def plainExpression (trees : Trees) : Expression :=
  .whole [] .other trees

/-! ## What comes next -/

/-- Whether a path or a name comes next in the place of an expression. -/
def startsExpressionPath (ts : Trees) : Bool :=
  startsPath ts ||
    (startsWord "try" ts && (startsMark "!" (ts.drop 1) || startsMark "::" (ts.drop 1)))

/-- Whether an expression can start here. -/
def startsExpression (ts : Trees) : Bool :=
  (startsAnyWord ts && !startsWord "as" ts) || startsGroup .parenthesis ts ||
    startsGroup .bracket ts || startsGroup .brace ts || startsLiteral ts ||
    (startsMark "!" ts && !startsMark "!=" ts) ||
    (startsMark "-" ts && !startsMark "-=" ts && !startsMark "->" ts) ||
    (startsMark "*" ts && !startsMark "*=" ts) || (startsMark "|" ts && !startsMark "|=" ts) ||
    (startsMark "&" ts && !startsMark "&=" ts) || startsMark ".." ts ||
    (startsMark "<" ts && !startsMark "<=" ts && !startsMark "<<=" ts) || startsMark "::" ts ||
    startsLifetime ts || startsMark "#" ts

/-! ## Paths and structures -/

/-- The value of one field of a structure. -/
def fieldValue (g : Rules) : Reader Trees := do
  let attributes ← outerAttributes g
  let isNamed ← peek startsName
  let label ← member
  if !isNamed || (← peek (startsMark ":")) then
    let colon ← mark ":"
    return attributes ++ label ++ colon ++ (← g.expression)
  return attributes ++ label

/-- The fields of a structure; two points and a value stand for all further ones. -/
def recordBody (g : Rules) : Reader Trees :=
  within .brace <| gather do
    if ← atEnd then return ([], false)
    if ← peek (startsMark "..") then
      let points ← mark ".."
      if ← atEnd then return (points, false)
      return (points ++ (← g.expression), false)
    let field ← fieldValue g
    if ← atEnd then return (field, false)
    return (field ++ (← mark ","), true)

/-- A macro call, a structure or a path. -/
def pathExpression (g : Rules) (structs : Bool) : Reader Expression := do
  let p ← qualifiedPath g true
  let ts ← get
  if !p.qualified && p.plain && startsMark "!" ts && !startsMark "!=" ts then
    let bang ← mark "!"
    let form := if ← peek (startsGroup .brace) then WholeForm.braceMacro else .other
    return .whole [] form (p.trees ++ bang ++ (← anyGroup))
  if structs && startsGroup .brace ts then
    return plainExpression (p.trees ++ (← recordBody g))
  return plainExpression p.trees

/-- An array: elements with commas, or one element and how often it is repeated. -/
def arrayExpression (g : Rules) : Reader Trees :=
  within .bracket do
    if ← atEnd then return []
    let first ← g.expression
    if ← peek (startsMark ";") then
      let semicolon ← mark ";"
      return first ++ semicolon ++ (← g.expression)
    if ← atEnd then return first
    let comma ← mark ","
    return first ++ comma ++ (← listed g.expression)

/-! ## Operands that reach as far as they can -/

/-- The right operand of an operator: it takes in all operators that bind more tightly, and
those of the same level behind an assignment. -/
def rightOperand (g : Rules) (structs : Bool) (level : Level) : Reader Expression := do
  looping (fun (e : Expression) => do
    let ts ← get
    let coming := nextLevel ts
    if level < coming || (coming == level && level == .assign) then
      let e' ← g.climb structs coming e
      let taken := (← get).length < ts.length
      return (e', taken)
    return (e, false)) (← g.unary structs)

/-- Whether something comes next that cannot start the end of a range. -/
def endsOpenRange (structs : Bool) (ts : Trees) : Bool :=
  ts.isEmpty || startsMark "," ts || startsMark ";" ts || startsPoint ts ||
    startsMark "?" ts || startsMark "=>" ts ||
    (!structs && startsGroup .brace ts) || startsMark "=" ts || startsMark "+" ts ||
    startsMark "/" ts || startsMark "%" ts || startsMark "^" ts || startsMark ">" ts ||
    startsMark "<=" ts || startsMark "!=" ts || startsMark "-=" ts || startsMark "*=" ts ||
    startsMark "&=" ts || startsMark "|=" ts || startsMark "<<=" ts || startsWord "as" ts

/-- The limits of a range; three points are none. -/
def rangeLimits : Reader Trees := do
  let ts ← get
  if startsMark "..=" ts then mark "..="
  else if startsMark "..." ts then failure
  else mark ".."

/-- The limits of a range and its end, which may be missing behind two points. -/
def limitsAndStop (g : Rules) (structs : Bool) : Reader (Trees × Option Expression) := do
  let limits ← rangeLimits
  if limits.length == 2 && (← peek (endsOpenRange structs)) then return (limits, none)
  return (limits, some (← rightOperand g structs .range))

/-- A range without a start. -/
def prefixRange (g : Rules) (structs : Bool) : Reader Expression := do
  match ← limitsAndStop g structs with
  | (limits, none) => return .rangeFull [] limits
  | (limits, some stop) => return .rangeTo [] limits stop

/-- A jump, with its operand if an expression follows.  Within a condition a brace behind `break`
starts the block, but the operand itself may hold structures.  A label behind `break` cannot be
that of the operand. -/
def jump (g : Rules) (structs : Bool) : Reader Expression := do
  let isBreak ← peek (startsWord "break")
  let word_ ← one (startsOneOf ["break", "return", "yield"])
  let label ← if isBreak then optional startsLifetime else pure []
  if !label.isEmpty && (← peek (startsMark ":")) then failure
  let ts ← get
  if startsExpression ts && (!isBreak || structs || !startsGroup .brace ts) then
    return .jump [] word_ label isBreak (← g.wholeExpression true)
  return plainExpression (word_ ++ label)

/-- An input of a closure. -/
def closureInput (g : Rules) : Reader Trees := do
  let attributes ← outerAttributes g
  let pattern ← g.pattern
  if ← peek (startsMark ":") then
    let colon ← mark ":"
    return attributes ++ pattern.trees ++ colon ++ (← g.typeTrees)
  match pattern.form with
  | .asWritten => return pattern.trees
  | .constant bare => return attributes ++ bare
  | .range _ =>
      return if attributes.isEmpty then pattern.trees else attributes ++ parens pattern.trees
  | .other => return attributes ++ pattern.trees

/-- A closure. -/
def closure (g : Rules) (structs : Bool) : Reader Expression := do
  let bind ← optionalBinder g
  let const ← optional (startsWord "const")
  let static ← optional (startsWord "static")
  let async ← optional (startsWord "async")
  let move ← optional (startsWord "move")
  let opening ← mark "|"
  let inputs ← gather do
    if ← peek (startsMark "|") then return ([], false)
    let input ← closureInput g
    if ← peek (startsMark "|") then return (input, false)
    return (input ++ (← mark ","), true)
  let closing ← mark "|"
  let head := bind ++ const ++ static ++ async ++ move ++ opening ++ inputs ++ closing
  if ← peek (startsMark "->") then
    let arrow ← mark "->"
    let type ← g.typeTrees
    let body : Expression := .whole [] (.block true) (← g.block false)
    return .headed [] (head ++ arrow ++ type) body
  return .headed [] head (← g.wholeExpression structs)

/-- Whether a closure comes next. -/
def startsClosure (ts : Trees) : Bool :=
  let behind := ts.drop 1
  startsMark "|" ts || startsOneOf ["move", "static"] ts ||
    (startsWord "for" ts && startsParameterList behind) ||
    (startsWord "const" ts && !startsGroup .brace behind) ||
    (startsWord "async" ts && (startsMark "|" behind || startsWord "move" behind))

/-- A pattern that is matched within a condition. -/
def letExpression (g : Rules) (structs : Bool) : Reader Expression := do
  let let_ ← word "let"
  let pattern ← alternatives g
  let equal ← mark "="
  return .headed [] (let_ ++ pattern ++ equal)
    (← g.climb structs .compare (← g.unary structs))

/-! ## Atoms -/

/-- Whether an asynchronous block comes next. -/
def startsAsyncBlock (ts : Trees) : Bool :=
  startsWord "async" ts &&
    (startsGroup .brace (ts.drop 1) ||
      (startsWord "move" (ts.drop 1) && startsGroup .brace (ts.drop 2)))

/-- A single operand without signs and without what hangs on to it. -/
def atom (g : Rules) (structs : Bool) : Reader Expression := do
  let ts ← get
  if startsLiteral ts then return plainExpression (← literal)
  else if startsAsyncBlock ts then
    let async ← word "async"
    let move ← optional (startsWord "move")
    return plainExpression (async ++ move ++ (← g.block false))
  else if startsClosure ts then closure g structs
  else if startsBuiltin ts then return .asWritten (← builtin)
  else if startsExpressionPath ts then pathExpression g structs
  else if startsGroup .parenthesis ts then
    return plainExpression (← within .parenthesis (listed g.expression))
  else if startsOneOf ["break", "return", "yield"] ts then jump g structs
  else if startsWord "continue" ts then
    let continue_ ← word "continue"
    return plainExpression (continue_ ++ (← optional startsLifetime))
  else if startsWord "become" ts then
    return .asWritten (← asWritten do
      let _ ← word "become"
      g.wholeExpression true)
  else if startsGroup .bracket ts then return plainExpression (← arrayExpression g)
  else if startsWord "let" ts then letExpression g structs
  else if startsCompound ts then compound g
  else if startsMark ".." ts then prefixRange g structs
  else if startsWord "_" ts then return plainExpression (← word "_")
  else failure

end SequenceKit.Grammar
