import SequenceKit.Expression.Printer
import SequenceKit.Grammar.Reader

/-!
# The shape of the grammar

Types, bounds, expressions, patterns, blocks and declarations nest in one another.  The rules are
written over `Rules`, which say how each of these is read where it is nested; the rules themselves
then need no recursion.

* `TypePiece`, `BoundPiece`, `PatternPiece` — a piece that was read, with what a rule around it has
  to know.
* `Rules` — the readers of nested pieces.
* `Rules.expression`, `Rules.condition`, … — what they read, as it is written.
-/

namespace SequenceKit.Grammar

open SequenceKit.Source SequenceKit.Expression

/-! ## Pieces -/

/-- What a rule has to know of a type that it has read. -/
inductive TypeForm where
  /-- One name, which may have arguments between angle brackets. -/
  | name
  /-- Another path that does not start at a qualified type. -/
  | path
  /-- Bounds without a leading word; a single one with nothing behind, without the parentheses
  around it, is at hand. -/
  | bounds (single? : Option Trees)
  | other

/-- A type that was read. -/
structure TypePiece where
  trees : Trees
  form : TypeForm := .other
  ending : TypeEnding := .other

/-- A bound that was read. -/
structure BoundPiece where
  trees : Trees
  /-- Whether it names a trait, and not a lifetime or what is captured. -/
  isTrait : Bool := false
  ending : TypeEnding := .other

/-- What a rule has to know of a pattern that it has read. -/
inductive PatternForm where
  /-- A range; it is closed if it has both ends. -/
  | range (closed : Bool)
  /-- A constant block; at hand is the block without the attributes inside. -/
  | constant (bare : Trees)
  /-- Tokens that stay as they were written; such a pattern takes no attributes. -/
  | asWritten
  | other

/-- A pattern that was read. -/
structure PatternPiece where
  trees : Trees
  form : PatternForm := .other

/-! ## Rules -/

/-- The readers of nested pieces.  The flag `plus` says whether a type may go on with further
bounds, and `structs` whether an expression may be a structure with braces. -/
structure Rules where
  type : (plus : Bool) → Reader TypePiece
  /-- One bound.  The flags say whether it may name what it captures and whether it may be
  constant. -/
  bound : (captures constant : Bool) → Reader BoundPiece
  unary : (structs : Bool) → Reader Expression
  /-- Goes on from a first operand with operators that bind at least as tightly as a level. -/
  climb : (structs : Bool) → Level → Expression → Reader Expression
  /-- An expression that is complete where it ends with a block. -/
  early : Reader Expression
  pattern : Reader PatternPiece
  /-- A block with its braces; the flag says whether attributes may stand inside. -/
  block : (attributes : Bool) → Reader Trees
  /-- A declaration with its attributes. -/
  declaration : Reader Trees

namespace Rules

/-- The rules that read nothing. -/
def silent : Rules where
  type _ := failure
  bound _ _ := failure
  unary _ := failure
  climb _ _ _ := failure
  early := failure
  pattern := failure
  block _ := failure
  declaration := failure

/-- A type, as trees. -/
def typeTrees (g : Rules) : Reader Trees := do
  return (← g.type true).trees

/-- One bound of a parameter. -/
def plainBound (g : Rules) : Reader Trees := do
  return (← g.bound false true).trees

/-- A whole expression. -/
def wholeExpression (g : Rules) (structs : Bool) : Reader Expression := do
  g.climb structs .loosest (← g.unary structs)

/-- An expression where nothing around it matters. -/
def expression (g : Rules) : Reader Trees := do
  return (← g.wholeExpression true).print .free

/-- An expression that a block follows, so that it may not be a structure. -/
def condition (g : Rules) : Reader Trees := do
  return (← g.wholeExpression false).print .ofCondition

end Rules

end SequenceKit.Grammar
