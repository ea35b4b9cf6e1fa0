import SequenceKit.Grammar.Atom

/-!
# Expressions

An operand is an atom with what hangs on to it and the signs before it; operators are then climbed
by level.

* `trailers` — the calls, fields, indexes and marks behind an operand.
* `unaryRule` — an operand with its signs.
* **`climbRule`** — operands joined by operators.
* `earlyRule` — an expression that is complete where it ends with a block.
-/

namespace SequenceKit.Grammar

open SequenceKit.Source SequenceKit.Expression

/-! ## What hangs on to an operand -/

/-- A literal split at its points. -/
def splitAtPoints : List Char → List (List Char)
  | [] => [[]]
  | '.' :: rest => [] :: splitAtPoints rest
  | c :: rest =>
      match splitAtPoints rest with
      | part :: parts => (c :: part) :: parts
      | [] => [[c]]

/-- The trees of field numbers with a point between any two. -/
def numbersTrees : List (List Char) → Option Trees
  | [] => none
  | [part] => (fieldNumber? part).map fun n => [numberTree n]
  | part :: parts => do
      let n ← fieldNumber? part
      return numberTree n :: .mark '.' false :: (← numbersTrees parts)

/-- A method call, a field or an awaited value, behind its point and field numbers that were
read with it. -/
def behindLastPoint (g : Rules) : Reader Trees := do
  if ← peek (startsWord "await") then word "await"
  else
    let named ← peek startsName
    let label ← member
    let behind ← get
    if named && startsMark "::" behind then
      let colons ← mark "::"
      let (arguments, _) ← angledArguments g
      let call ← within .parenthesis (listed g.expression)
      return label ++ colons ++ arguments ++ call
    if named && startsGroup .parenthesis behind then
      return label ++ (← within .parenthesis (listed g.expression))
    return label

/-- What stands behind a point.  Two field numbers in a row look like a number with a point, and
one with a point behind it looks like a number that ends in a point. -/
def behindPoint (g : Rules) : Reader Trees := do
  match ← get with
  | .literal text :: rest =>
      match splitAtPoints text.toList with
      | [_] => behindLastPoint g
      | parts =>
          set rest
          if parts.getLast? == some [] then
            let numbers ← StateT.lift (numbersTrees parts.dropLast)
            return numbers ++ .mark '.' false :: (← behindLastPoint g)
          else StateT.lift (numbersTrees parts)
  | _ => behindLastPoint g

/-- Calls, fields, indexes and question marks behind an operand. -/
def trailers (g : Rules) (e : Expression) : Reader Expression :=
  looping (fun (e : Expression) => do
    let ts ← get
    if startsGroup .parenthesis ts then
      return (.call [] e (← within .parenthesis (listed g.expression)), true)
    if startsPoint ts && !e.isRange then
      let point ← mark "."
      return (.dotted [] e (point ++ (← behindPoint g)), true)
    if startsGroup .bracket ts then
      return (.call [] e (← within .bracket g.expression), true)
    if startsMark "?" ts && !e.isRange then
      return (.dotted [] e (← mark "?"), true)
    return (e, false)) e

/-! ## Operands -/

/-- An operand with the signs before it.  Attributes belong to the operand behind them with all
that hangs on to it; a range without a start takes none. -/
def unaryRule (g : Rules) (structs : Bool) : Reader Expression := do
  let start ← get
  let attributes ← outerAttributes g
  let ts ← get
  if startsMark "&" ts then
    let sign ← mark "&"
    let behind ← get
    let raw := startsWord "raw" behind && startsOneOf ["mut", "const"] (behind.drop 1)
    let rawWord ← if raw then word "raw" else pure []
    let access ← optional fun ts => startsWord "mut" ts || (raw && startsWord "const" ts)
    return .headed attributes (sign ++ rawWord ++ access) (← g.unary structs)
  else if startsMark "*" ts || startsMark "!" ts || startsMark "-" ts then
    let sign ← next
    return .headed attributes [sign] (← g.unary structs)
  else
    match ← trailers g (← atom g structs) with
    | .asWritten _ => return .asWritten (← since start)
    | e =>
        if e.isRange && !attributes.isEmpty then failure
        return e.withAttributes attributes

/-! ## Operators -/

/-- Whether something hangs on to a cast, which is refused. -/
def hangsOnCast (ts : Trees) : Bool :=
  startsTrailer ts || startsGroup .bracket ts || startsGroup .parenthesis ts

/-- Goes on from a first operand with operators that bind at least as tightly as `base`.
Comparisons do not chain, a range cannot be an operand, and nothing may hang on to a cast. -/
def climbRule (g : Rules) (structs : Bool) (base : Level) (first : Expression) :
    Reader Expression :=
  looping (fun (e : Expression) => do
    let ts ← get
    if e.isRange then return (e, false)
    match nextOperator? ts with
    | some operator =>
        if operator.level < base then return (e, false)
        if operator.level == .compare && e.isComparison then failure
        let _ ← mark operator.text
        return (.binary [] e operator (← rightOperand g structs operator.level), true)
    | none =>
        if startsAssignment ts && base ≤ .assign then
          let _ ← mark "="
          return (.assignment [] e (← rightOperand g structs .assign), true)
        else if startsMark ".." ts && base ≤ .range then
          match ← limitsAndStop g structs with
          | (limits, none) => return (.rangeFrom [] e limits, true)
          | (limits, some stop) => return (.range [] e limits stop, true)
        else if startsWord "as" ts && base ≤ .cast then
          let _ ← word "as"
          let type ← g.type false
          if ← peek hangsOnCast then failure
          return (.cast [] e type.trees type.ending, true)
        else return (e, false)) first

/-- An expression that starts a statement or the body of an arm.  One that ends with a block is
complete, unless a point or a question mark follows. -/
def earlyRule (g : Rules) : Reader Expression := do
  let attributes ← outerAttributes g
  if ← peek startsCompound then
    let e ← compound g
    if ← peek startsTrailer then
      let e ← trailers g e
      g.climb true .loosest (e.withAttributes attributes)
    else return e.withAttributes attributes
  else
    let e ← g.unary true
    g.climb true .loosest (e.withAttributes attributes)

end SequenceKit.Grammar
