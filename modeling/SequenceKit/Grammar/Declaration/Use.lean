import SequenceKit.Grammar.Attribute

/-!
# Imports

What a `use` declaration brings into scope: paths, their last parts in braces, renamed or all at
once.

* **`useTree`** — the tree of paths behind `use`.
-/

namespace SequenceKit.Grammar

open SequenceKit.Source

/-- Another name for what is imported, if there is one. -/
def renamed : Reader Trees := do
  if ← peek (startsWord "as") then
    let as ← word "as"
    return as ++ (← one fun ts => startsName ts || startsWord "_" ts)
  return []

/-- Whether an identifier of an import comes next. -/
def startsUseWord (ts : Trees) : Bool :=
  startsName ts || startsOneOf ["self", "super", "crate", "try"] ts

/-- A tree of imported paths, at most `depth` braces deep.  If `root` holds, each path in braces
may start at the root, unless a part of it was read already. -/
def useTreeAt : (depth : Nat) → (root : Bool) → Reader Trees
  | 0, _ => failure
  | depth + 1, root => do
      let path ← gather do
        if (← peek startsUseWord) && (← peek fun ts => startsMark "::" (ts.drop 1)) then
          let label ← next
          return (label :: (← mark "::"), true)
        return ([], false)
      let root := root && path.isEmpty
      let ts ← get
      if startsUseWord ts then
        let label ← next
        return path ++ label :: (← renamed)
      else if startsMark "*" ts then return path ++ (← mark "*")
      else
        let trees ← within .brace <| listed do
          let lead ← if root then optionalMark "::" else pure []
          return lead ++ (← useTreeAt depth (root && lead.isEmpty))
        return path ++ trees

/-- The tree of paths behind `use`. -/
def useTree : Reader Trees := do
  let depth := (treesWords (← get)).length + 1
  let lead ← optionalMark "::"
  return lead ++ (← useTreeAt depth lead.isEmpty)

end SequenceKit.Grammar
