import SequenceKit.Grammar.Path

/-!
# Attributes and visibility

* `outerAttributes`, `innerAttributes` — `#[…]` and `#![…]`, any number of them.
* `visibility` — nothing, `pub`, or `pub` with a scope in parentheses.
-/

namespace SequenceKit.Grammar

open SequenceKit.Source

/-- What an attribute says: a path alone, with a delimited group, or with a value, which has no
attributes itself. -/
def attributeBody (g : Rules) : Reader Trees := do
  let path ← if ← peek (startsWord "unsafe") then word "unsafe" else plainPath
  let ts ← get
  if startsGroup .parenthesis ts || startsGroup .bracket ts || startsGroup .brace ts then
    return path ++ (← anyGroup)
  else if startsMark "=" ts then
    let equal ← mark "="
    if ← peek (startsMark "#") then failure
    return path ++ equal ++ (← g.expression)
  else
    return path

/-- Any number of outer attributes. -/
def outerAttributes (g : Rules) : Reader Trees :=
  gather do
    if ← peek (startsMark "#") then
      let pound ← mark "#"
      return (pound ++ (← within .bracket (attributeBody g)), true)
    return ([], false)

/-- Any number of inner attributes. -/
def innerAttributes (g : Rules) : Reader Trees :=
  gather do
    if ← peek startsInnerAttribute then
      let pound ← mark "#"
      let bang ← mark "!"
      return (pound ++ bang ++ (← within .bracket (attributeBody g)), true)
    return ([], false)

/-- Whether a group is a scope: `(crate)`, `(self)`, `(super)` or `(in …)`. -/
def isScope : Trees → Bool
  | .group .parenthesis [inner] :: _ => startsOneOf ["crate", "self", "super"] [inner]
  | .group .parenthesis (first :: _) :: _ => startsWord "in" [first]
  | _ => false

/-- The inside of a scope. -/
def scope : Reader Trees := do
  if ← peek (startsWord "in") then
    let into ← word "in"
    return into ++ (← plainPath)
  else
    return [← next]

/-- A visibility, if there is one.  Parentheses that hold no scope do not belong to it. -/
def visibility : Reader Trees := do
  if ← peek (startsWord "pub") then
    let pub ← word "pub"
    if ← peek isScope then
      return pub ++ (← within .parenthesis scope)
    return pub
  else
    return []

end SequenceKit.Grammar
