import SequenceKit.Grammar.Pattern

/-!
# Expressions that end with a block

Blocks, conditions, loops and choices.  Where one of them starts a statement it is complete with
its last brace.

* `startsCompound` — whether one comes next.
* `arms` — the arms of a choice.
* **`compound`** — an expression that ends with a block.
-/

namespace SequenceKit.Grammar

open SequenceKit.Source SequenceKit.Expression

/-! ## Conditions and loops -/

/-- A condition and its blocks. -/
def ifExpression (g : Rules) : Reader Trees :=
  gather do
    let word_ ← word "if"
    let condition ← g.condition
    let block ← g.block false
    let clause := word_ ++ condition ++ block
    if ← peek (startsWord "else") then
      let else_ ← word "else"
      if ← peek (startsWord "if") then return (clause ++ else_, true)
      return (clause ++ else_ ++ (← g.block false), false)
    return (clause, false)

/-- Loops: with a condition, over elements, and endless ones. -/
def loopExpression (g : Rules) : Reader Trees := do
  if ← peek (startsWord "while") then
    let while_ ← word "while"
    let condition ← g.condition
    return while_ ++ condition ++ (← g.block true)
  else if ← peek (startsWord "for") then
    let for_ ← word "for"
    let pattern ← alternatives g
    let in_ ← word "in"
    let source ← g.condition
    return for_ ++ pattern ++ in_ ++ source ++ (← g.block true)
  else
    let loop_ ← word "loop"
    return loop_ ++ (← g.block true)

/-! ## Choices -/

/-- An arm of a choice.  A comma has to follow it unless it is the last or ends with a block. -/
def arm (g : Rules) : Reader Trees := do
  let attributes ← outerAttributes g
  let pattern ← alternatives g
  let guarded ←
    if ← peek (startsWord "if") then do
      let if_ ← word "if"
      pure (if_ ++ (← g.expression))
    else pure []
  let arrow ← mark "=>"
  let body ← g.early
  let separate ← peek fun ts => body.needsComma && !ts.isEmpty
  let comma ← if separate then mark "," else optionalMark ","
  return attributes ++ pattern ++ guarded ++ arrow ++ body.print .free ++ comma

/-- The arms of a choice. -/
def arms (g : Rules) : Reader Trees :=
  gather do
    if ← atEnd then return ([], false)
    return (← arm g, true)

/-- A choice among arms. -/
def matchExpression (g : Rules) : Reader Trees := do
  let match_ ← word "match"
  let subject ← g.condition
  let body ← within .brace do
    let inner ← innerAttributes g
    return inner ++ (← arms g)
  return match_ ++ subject ++ body

/-! ## Blocks -/

/-- Whether a block comes next that has attributes inside. -/
def startsWithInnerAttribute : Trees → Bool
  | .group .brace inner :: _ => startsInnerAttribute inner
  | _ => false

/-- A block as an expression. -/
def blockExpression (g : Rules) (label : Trees) : Reader Expression := do
  let plain ← peek fun ts => label.isEmpty && !startsWithInnerAttribute ts
  return .whole [] (.block plain) (label ++ (← g.block true))

/-- A block or a loop behind its label. -/
def labelledExpression (g : Rules) : Reader Expression := do
  let label ← lifetime
  let colon ← mark ":"
  if ← peek (startsGroup .brace) then blockExpression g (label ++ colon)
  else return .whole [] .compound (label ++ colon ++ (← loopExpression g))

/-- Whether an expression that ends with a block comes next. -/
def startsCompound (ts : Trees) : Bool :=
  startsOneOf ["if", "while", "loop", "match", "unsafe"] ts ||
    (startsWord "for" ts && !startsParameterList (ts.drop 1)) ||
    (startsOneOf ["const", "try"] ts && startsGroup .brace (ts.drop 1)) ||
    startsGroup .brace ts || startsLifetime ts

/-- An expression that ends with a block of its own. -/
def compound (g : Rules) : Reader Expression := do
  let ts ← get
  if startsGroup .brace ts then blockExpression g []
  else if startsLifetime ts then labelledExpression g
  else
    let trees ←
      if startsWord "if" ts then ifExpression g
      else if startsOneOf ["while", "for", "loop"] ts then loopExpression g
      else if startsWord "match" ts then matchExpression g
      else do
        let word_ ← next
        pure (word_ :: (← g.block (!startsWord "try" ts)))
    return .whole [] .compound trees

end SequenceKit.Grammar
