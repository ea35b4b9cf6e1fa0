import SequenceKit.Generics.Basic
import SequenceKit.Grammar.Attribute

/-!
# Reading generic parameters and predicates

* `parameterList` — the parameters between angle brackets.
* `binder` — the parameters that `for` binds.
* `whereClause` — the predicates behind `where`.
* `startsParameterList` — whether a list of parameters follows, rather than a qualified type.
-/

namespace SequenceKit.Grammar

open SequenceKit.Source SequenceKit.Generics

/-! ## Bounds and values -/

/-- Bounds joined by plus signs, up to where the test holds; a last plus sign is allowed. -/
def boundsUntil (ends : Trees → Bool) (bound : Reader Trees) : Reader Trees :=
  gather do
    if ← peek ends then return ([], false)
    let found ← bound
    if ← peek (startsMark "+") then return (found ++ (← mark "+"), true)
    return (found, false)

/-- A value behind an equals sign, if there is one. -/
def value? (value : Reader Trees) : Reader (Option Trees) := do
  if ← peek (startsMark "=") then
    let _ ← mark "="
    return some (← value)
  return none

/-- Bounds behind a colon, if there is one. -/
def bounds? (bounds : Reader Trees) : Reader Trees := do
  if ← peek (startsMark ":") then
    let _ ← mark ":"
    bounds
  else return []

/-! ## Parameters -/

/-- Whether a parameter ends here. -/
def endsParameter (ts : Trees) : Bool :=
  startsMark "," ts || startsMark ">" ts

/-- A parameter without its comma; a low line in the place of a type is one without bounds. -/
def parameter (g : Rules) (nameless : Bool) : Reader Parameter := do
  let attributes ← outerAttributes g
  let ts ← get
  if startsLifetime ts then
    let name ← next
    let bounds ← bounds? (boundsUntil endsParameter lifetime)
    return ⟨attributes, name, .lifetime bounds, false⟩
  else if startsName ts then
    let name ← next
    let ends := fun ts => endsParameter ts || startsMark "=" ts
    let bounds ← bounds? (boundsUntil ends g.plainBound)
    return ⟨attributes, name, .type bounds (← value? g.typeTrees), false⟩
  else if startsWord "const" ts then
    let _ ← next
    require startsName
    let name ← next
    let _ ← mark ":"
    let type ← g.typeTrees
    return ⟨attributes, name, .constant type (← value? (constantArgument g)), false⟩
  else if nameless && startsWord "_" ts then
    return ⟨attributes, ← next, .type [] none, false⟩
  else failure

/-- Parameters between angle brackets. -/
def angledParameters (g : Rules) (nameless : Bool) : Reader (List Parameter) := do
  let _ ← mark "<"
  let parameters ← looping (fun parameters => do
    if ← peek (startsMark ">") then return (parameters, false)
    let p ← parameter g nameless
    if ← peek (startsMark ">") then return (parameters ++ [p], false)
    let _ ← mark ","
    return (parameters ++ [{ p with comma := true }], true)) []
  let _ ← mark ">"
  return parameters

/-- The parameters of a declaration, if there are any. -/
def parameterList (g : Rules) : Reader (List Parameter) := do
  if ← peek (startsMark "<") then angledParameters g true else return []

/-- The parameters that a binder binds, in their order; brackets around nothing stay. -/
def binder (g : Rules) : Reader Trees := do
  let bind ← word "for"
  let parameters ← angledParameters g false
  return bind ++ angled (parameters.map Parameter.print).flatten

/-- A binder, if there is one. -/
def optionalBinder (g : Rules) : Reader Trees := do
  if ← peek (startsWord "for") then binder g else return []

/-- Whether a list of parameters follows rather than a type that starts with a bracket. -/
def startsParameterList (ts : Trees) : Bool :=
  let second := ts.drop 1
  let third := ts.drop 2
  startsMark "<" ts &&
    (startsMark ">" second || startsMark "#" second ||
      ((startsLifetime second || startsName second) &&
        (startsMark ">" third || startsMark "," third ||
          (startsMark ":" third && !startsMark "::" third) || startsMark "=" third)) ||
      startsWord "const" second)

/-! ## Predicates -/

/-- Whether a where clause or the bounds of one of its predicates end here. -/
def endsPredicate (ts : Trees) : Bool :=
  ts.isEmpty || startsGroup .brace ts || startsMark "," ts || startsMark ";" ts ||
    (startsMark ":" ts && !startsMark "::" ts) || startsMark "=" ts

/-- One predicate without its comma. -/
def predicate (g : Rules) : Reader Predicate := do
  let ts ← get
  if startsLifetime ts && startsMark ":" (ts.drop 1) then
    let subject ← lifetime
    let _ ← mark ":"
    let ends := fun ts => endsPredicate ts || startsMark ":" ts
    return ⟨[], subject, ← boundsUntil ends lifetime, false⟩
  else
    let bind ← optionalBinder g
    let subject ← g.typeTrees
    let _ ← mark ":"
    return ⟨bind, subject, ← boundsUntil endsPredicate g.plainBound, false⟩

/-- The predicates behind `where`, if there are any. -/
def whereClause (g : Rules) : Reader (List Predicate) := do
  if !(← peek (startsWord "where")) then return []
  let _ ← next
  if ← peek startsParameterList then failure
  looping (fun predicates => do
    if ← peek endsPredicate then return (predicates, false)
    let p ← predicate g
    if ← peek (startsMark ",") then
      let _ ← mark ","
      return (predicates ++ [{ p with comma := true }], true)
    return (predicates ++ [p], false)) []

end SequenceKit.Grammar
