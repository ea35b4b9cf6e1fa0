import SequenceKit.Grammar.Declaration
import SequenceKit.Grammar.Statement

/-!
# The grammar, closed

The rules are written over a grammar for what is nested.  Applied to themselves as often as there
are levels of nesting they make up the whole grammar; a text cannot nest more deeply than it has
tokens.

* `Rules.around` — one level: the rules over a grammar for what is nested.
* `Rules.ofDepth` — the grammar for a depth of nesting.
* **`Rules.forTrees`** — a grammar that is deep enough for given trees.
-/

namespace SequenceKit.Grammar

open SequenceKit.Source

namespace Rules

/-- The rules over a grammar for what is nested. -/
def around (g : Rules) : Rules where
  type := typeRule g
  bound := boundRule g
  unary := unaryRule g
  climb := climbRule g
  early := earlyRule g
  pattern := patternRule g
  block := blockRule g
  declaration := declarationRule g

/-- The grammar for a depth of nesting. -/
def ofDepth : Nat → Rules
  | 0 => silent
  | depth + 1 => around (ofDepth depth)

/-- A grammar that is deep enough: no rule nests more than a few others without taking a token. -/
def forTrees (trees : Trees) : Rules :=
  ofDepth (8 * (treesWords trees).length + 8)

end Rules

end SequenceKit.Grammar
