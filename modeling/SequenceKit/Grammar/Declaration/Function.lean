import SequenceKit.Grammar.Pattern

/-!
# Functions

The head of a function, with its generic parameters and its inputs.

* `receiver` — the input that stands for the value itself.
* `functionArguments` — the inputs between parentheses.
* `startsSignature` — whether the head of a function comes next.
* **`signature`** — the head of a function.
-/

namespace SequenceKit.Grammar

open SequenceKit.Source SequenceKit.Generics

/-! ## Inputs -/

/-- The input that stands for the value itself.  A type may follow it unless it is a reference. -/
def receiver (g : Rules) : Reader Trees := do
  let sign ← optionalMark "&"
  let scope ← if sign.isEmpty then pure [] else optional startsLifetime
  let access ← optional (startsWord "mut")
  let self ← word "self"
  let type ←
    if sign.isEmpty && (← peek (startsMark ":")) then do
      let colon ← mark ":"
      pure (colon ++ (← g.typeTrees))
    else pure []
  return sign ++ scope ++ access ++ self ++ type

/-- An input that has to be a pattern with its type, or only a type that starts with a name and
its arguments; then a low line is written for the pattern.  With three points in the place of the
type it stands for all further inputs, as the flag says. -/
def typedInput (g : Rules) : Reader (Trees × Bool) := do
  let ts ← get
  if startsName ts && startsMark "<" (ts.drop 1) then
    return (words "_ :" ++ (← g.typeTrees), false)
  let pattern ← g.pattern
  let colon ← mark ":"
  if ← peek (startsMark "...") then
    return (pattern.trees ++ colon ++ (← mark "..."), true)
  return (pattern.trees ++ colon ++ (← g.typeTrees), false)

/-- The comma behind an input, if anything follows; it has to be there. -/
def separator : Reader Trees := do
  if ← atEnd then return [] else mark ","

/-- The inputs of a function.  Only the first may stand for the value itself, and behind three
points there are none. -/
def functionArguments (g : Rules) : Reader Trees :=
  looping (fun found => do
    if ← atEnd then return (found, false)
    let attributes ← outerAttributes g
    if ← peek (startsMark "...") then
      let dots ← mark "..."
      return (found ++ attributes ++ dots ++ (← separator), false)
    match ← attempt (receiver g) with
    | some self =>
        if !found.isEmpty then failure
        return (found ++ attributes ++ self ++ (← separator), !(← atEnd))
    | none =>
        let (input, isLast) ← typedInput g
        let comma ← separator
        return (found ++ attributes ++ input ++ comma, !isLast && !(← atEnd))) []

/-! ## Heads -/

/-- What is left behind words that may be missing. -/
def behindOptional (test : Trees → Bool) (ts : Trees) : Trees :=
  if test ts then ts.drop 1 else ts

/-- Whether the head of a function comes next; `safe` says whether it may be called safe. -/
def startsSignature (safe : Bool) (ts : Trees) : Bool :=
  let ts := behindOptional (startsWord "const") ts
  let ts := behindOptional (startsWord "async") ts
  let ts := behindOptional (fun ts => startsWord "unsafe" ts || (safe && startsWord "safe" ts)) ts
  let ts :=
    if startsWord "extern" ts then behindOptional startsString (ts.drop 1) else ts
  startsWord "fn" ts

/-- The head of a function, from its first word to its where clause, and whether it is called
safe. -/
def signature (g : Rules) (safe : Bool) : Reader (Trees × Bool) := do
  let const ← optional (startsWord "const")
  let async ← optional (startsWord "async")
  let unsafety ← optional (startsWord "unsafe")
  let safety ← if safe && unsafety.isEmpty then optional (startsWord "safe") else pure []
  let external ← convention
  let fn ← word "fn"
  let label ← name
  let parameters ← parameterList g
  let inputs ← within .parenthesis (functionArguments g)
  let (type, _) ← output g true
  let clause ← whereClause g
  let head := const ++ async ++ unsafety ++ safety ++ external ++ fn ++ label
  return (head ++ printParameters parameters ++ inputs ++ type ++ printWhere clause,
    !safety.isEmpty)

end SequenceKit.Grammar
