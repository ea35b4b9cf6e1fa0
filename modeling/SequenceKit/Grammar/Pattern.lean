import SequenceKit.Grammar.Type

/-!
# Patterns

The patterns of bindings, closures, function arguments and match arms.

* `member` — the name or the number of a field.
* `alternatives` — patterns with bars between them.
* **`patternRule`** — a pattern without bars.
-/

namespace SequenceKit.Grammar

open SequenceKit.Source

/-! ## Alternatives -/

/-- Whether a bar comes next, and no longer mark that starts with one. -/
def startsBar (ts : Trees) : Bool :=
  startsMark "|" ts && !startsMark "||" ts && !startsMark "|=" ts

/-- Patterns with bars between them, a first bar allowed; they are one pattern if there is no bar
at all. -/
def alternativesPiece (g : Rules) : Reader PatternPiece := do
  let lead ← optionalMark "|"
  let first ← g.pattern
  let more ← gather do
    if ← peek startsBar then
      let bar ← mark "|"
      return (bar ++ (← g.pattern).trees, true)
    return ([], false)
  if lead.isEmpty && more.isEmpty then return first
  return { trees := lead ++ first.trees ++ more }

/-- Patterns with bars between them, as trees. -/
def alternatives (g : Rules) : Reader Trees := do
  return (← alternativesPiece g).trees

/-! ## Ranges -/

/-- The limits of a range; three points, an older form of the closed limits, are written like
these. -/
def patternLimits : Reader Trees := do
  let ts ← get
  if startsMark "..=" ts then mark "..="
  else if startsMark "..." ts then
    let _ ← mark "..."
    return marks "..="
  else mark ".."

/-- Whether a range of patterns has no end here. -/
def endsPatternRange (ts : Trees) : Bool :=
  ts.isEmpty || startsMark "|" ts || startsMark "=" ts ||
    (startsMark ":" ts && !startsMark "::" ts) || startsMark "," ts || startsMark ";" ts ||
    startsWord "if" ts

/-- One end of a range of patterns, if there is one. -/
def rangeEnd (g : Rules) : Reader Trees := do
  let ts ← get
  if endsPatternRange ts then return []
  else if startsLiteral ts then literal
  else if startsPath ts then return (← qualifiedPath g true).trees
  else
    let const ← word "const"
    return const ++ (← g.block true)

/-- A range behind its first end.  Closed limits need a second end. -/
def rangeBehind (g : Rules) (first : Trees) : Reader PatternPiece := do
  let limits ← patternLimits
  let stop ← rangeEnd g
  if limits.length = 3 && stop.isEmpty then failure
  return ⟨first ++ limits ++ stop, .range (!first.isEmpty && !stop.isEmpty)⟩

/-- Two points, and the end of a range if there is one. -/
def openPattern (g : Rules) : Reader PatternPiece := do
  if ← peek (startsMark "..=") then rangeBehind g []
  else
    let points ← mark ".."
    let stop ← rangeEnd g
    return ⟨points ++ stop, if stop.isEmpty then .other else .range false⟩

/-! ## Fields -/

/-- The base of a number and its digits, by what it starts with. -/
def numberBase : List Char → Nat × List Char
  | '0' :: 'x' :: digits => (16, digits)
  | '0' :: 'o' :: digits => (8, digits)
  | '0' :: 'b' :: digits => (2, digits)
  | digits => (10, digits)

/-- The value of a digit of any base up to sixteen. -/
def digitValue? (c : Char) : Option Nat :=
  if c.isDigit then some (c.toNat - '0'.toNat)
  else if 'a' ≤ c && c ≤ 'f' then some (10 + (c.toNat - 'a'.toNat))
  else if 'A' ≤ c && c ≤ 'F' then some (10 + (c.toNat - 'A'.toNat))
  else none

/-- The value of digits in a base. -/
def valueOf? (base : Nat) (digits : List Char) : Option Nat :=
  digits.foldl (fun n c => do
    let d ← digitValue? c
    if d < base then return base * (← n) + d else none) (some 0)

/-- The number of a field without a name: digits in some base, low lines among them, without a
suffix, below two to the power of 32. -/
def fieldNumber? (text : List Char) : Option Nat := do
  guard ((text.head?.map Char.isDigit).getD false)
  let (base, rest) := numberBase text
  let digits := rest.filter (· != '_')
  guard !digits.isEmpty
  let n ← valueOf? base digits
  guard (n < 0x100000000)
  return n

/-- A field number is written as plain digits. -/
def numberTree (n : Nat) : Tree :=
  .literal (toString n)

/-- The name or the number of a field. -/
def member : Reader Trees := do
  match ← next with
  | .literal text =>
      match fieldNumber? text.toList with
      | some n => return [numberTree n]
      | none => failure
  | t =>
      if startsName [t] then return [t] else failure

/-- The pattern of one field of a structure, behind its attributes. -/
def fieldPattern (g : Rules) : Reader Trees := do
  let boxed ← optional (startsWord "box")
  let byReference ← optional (startsWord "ref")
  let access ← optional (startsWord "mut")
  let mode := boxed ++ byReference ++ access
  let named ← peek startsName
  let label ← if mode.isEmpty then member else name
  if !named || (mode.isEmpty && (← peek (startsMark ":"))) then
    let colon ← mark ":"
    return label ++ colon ++ (← alternatives g)
  return mode ++ label

/-- The fields of the pattern of a structure; two points stand for all further ones. -/
def structurePattern (g : Rules) : Reader Trees :=
  within .brace <| gather do
    if ← atEnd then return ([], false)
    let attributes ← outerAttributes g
    if ← peek (startsMark "..") then return (attributes ++ (← mark ".."), false)
    let field := attributes ++ (← fieldPattern g)
    if ← atEnd then return (field, false)
    return (field ++ (← mark ","), true)

/-! ## The forms of a pattern -/

/-- A pattern that starts with a path. -/
def pathPattern (g : Rules) : Reader PatternPiece := do
  let p ← qualifiedPath g true
  let ts ← get
  if !p.qualified && p.plain && startsMark "!" ts && !startsMark "!=" ts then
    let bang ← mark "!"
    return { trees := p.trees ++ bang ++ (← anyGroup) }
  else if startsGroup .brace ts then return { trees := p.trees ++ (← structurePattern g) }
  else if startsGroup .parenthesis ts then
    return { trees := p.trees ++ (← within .parenthesis (listed (alternatives g))) }
  else if startsMark ".." ts then rangeBehind g p.trees
  else return { trees := p.trees }

/-- Whether a pattern that starts with a path comes next, rather than a binding. -/
def startsPathPattern (ts : Trees) : Bool :=
  let behind := ts.drop 1
  (startsName ts &&
      (startsMark "::" behind || startsMark "!" behind || startsGroup .brace behind ||
        startsGroup .parenthesis behind || startsMark ".." behind)) ||
    (startsWord "self" ts && startsMark "::" behind) || startsMark "::" ts ||
    startsMark "<" ts || startsOneOf ["Self", "super", "crate"] ts

/-- A name that is bound, and the pattern behind it. -/
def bindingPattern (g : Rules) : Reader PatternPiece := do
  let byReference ← optional (startsWord "ref")
  let access ← optional (startsWord "mut")
  let label ← one fun ts => startsName ts || startsWord "self" ts
  let whole := byReference ++ access ++ label
  if ← peek (startsMark "@") then
    let at_ ← mark "@"
    return { trees := whole ++ at_ ++ (← g.pattern).trees }
  return { trees := whole }

/-- An element of a slice.  A range that is open on a side needs parentheses there. -/
def sliceElement (g : Rules) : Reader Trees := do
  let piece ← alternativesPiece g
  match piece.form with
  | .range false => failure
  | _ => return piece.trees

/-- A constant block without the attributes inside. -/
def withoutInnerAttributes (g : Rules) : Trees → Trees
  | [const, .group .brace inner] =>
      [const, .group .brace ((behind? (innerAttributes g) inner).getD inner)]
  | trees => trees

/-- A pattern that starts with a literal or a constant block: a range or only that. -/
def valuePattern (g : Rules) : Reader PatternPiece := do
  let isConstant ← peek (startsWord "const")
  let first ← rangeEnd g
  if ← peek (startsMark "..") then rangeBehind g first
  else if isConstant then return ⟨first, .constant (withoutInnerAttributes g first)⟩
  else return { trees := first }

/-- A pattern without bars. -/
def patternRule (g : Rules) : Reader PatternPiece := do
  let ts ← get
  if startsPathPattern ts then pathPattern g
  else if startsWord "_" ts then return { trees := ← word "_" }
  else if startsWord "box" ts then
    let _ ← word "box"
    let _ ← g.pattern
    return ⟨← since ts, .asWritten⟩
  else if startsMark "-" ts || startsLiteral ts || startsWord "const" ts then
    valuePattern g
  else if startsOneOf ["ref", "mut", "self"] ts || startsName ts then bindingPattern g
  else if startsMark "&" ts then
    let sign ← mark "&"
    let access ← optional (startsWord "mut")
    return { trees := sign ++ access ++ (← g.pattern).trees }
  else if startsGroup .parenthesis ts then
    return { trees := ← within .parenthesis (listed (alternatives g)) }
  else if startsGroup .bracket ts then
    return { trees := ← within .bracket (listed (sliceElement g)) }
  else if startsMark ".." ts && !startsMark "..." ts then openPattern g
  else failure

end SequenceKit.Grammar
