import SequenceKit.Expression.Level

/-!
# Expressions

An expression as far as its statement, its attributes and its parentheses depend on it: how
operators, signs, calls and jumps nest.  Whatever stands between delimiters is kept as it is
written, since nothing around it matters there.

* `WholeForm` — what is known of an expression that no operator splits.
* `TypeEnding` — how the type of a cast ends.
* `Expression` — an expression.
* `Expression.needsSemicolon`, `Expression.needsComma` — what ends it as a statement and as an arm.
* `Expression.startsWithLabel`, `Expression.endsWithBrace` — its first and its last token.
* `Expression.withAttributes`, `Expression.withLeftmostAttributes` — attributes before it.
-/

namespace SequenceKit

open SequenceKit.Source SequenceKit.Expression

/-- What is known of an expression that no operator splits. -/
inductive Expression.WholeForm where
  /-- A block; it is plain if it has neither a label nor attributes inside. -/
  | block (plain : Bool)
  /-- A condition, a choice, a loop, or a block behind a word. -/
  | compound
  /-- A macro call with braces. -/
  | braceMacro
  | other
  deriving DecidableEq, Repr

/-- How a type ends, as far as what may follow it depends on that.  Parentheses around its last
bound are not looked at. -/
inductive Expression.TypeEnding where
  /-- A path whose last identifier has no brackets. -/
  | path
  /-- A group in braces. -/
  | brace
  | other
  deriving DecidableEq, Repr

/-- An expression, with the attributes before it. -/
inductive Expression where
  /-- One that no operator splits. -/
  | whole (attributes : Trees) (form : WholeForm) (trees : Trees)
  /-- Tokens that stay as they were written; such an expression takes no attributes. -/
  | asWritten (trees : Trees)
  /-- A call or an index: a group behind an expression. -/
  | call (attributes : Trees) (function : Expression) (arguments : Trees)
  /-- A field, a method call, an awaited value or a question mark behind an expression. -/
  | dotted (attributes : Trees) (base : Expression) (suffix : Trees)
  /-- An operand behind a sign, behind the head of a closure, or behind a pattern that it is
  matched with. -/
  | headed (attributes head : Trees) (operand : Expression)
  /-- A jump with its label, if it has one, and its operand. -/
  | jump (attributes head label : Trees) (isBreak : Bool) (operand : Expression)
  | binary (attributes : Trees) (left : Expression) (operator : Operator) (right : Expression)
  | assignment (attributes : Trees) (left right : Expression)
  | cast (attributes : Trees) (operand : Expression) (type : Trees) (ending : TypeEnding)
  /-- A range without ends. -/
  | rangeFull (attributes limits : Trees)
  | rangeFrom (attributes : Trees) (start : Expression) (limits : Trees)
  | rangeTo (attributes limits : Trees) (stop : Expression)
  | range (attributes : Trees) (start : Expression) (limits : Trees) (stop : Expression)

namespace Expression

/-! ## How an expression stands -/

/-- Whether it is a range of any kind. -/
def isRange : Expression → Bool
  | rangeFull .. | rangeFrom .. | rangeTo .. | range .. => true
  | _ => false

/-- Whether it is a comparison. -/
def isComparison : Expression → Bool
  | binary _ _ operator _ => operator.level = .compare
  | _ => false

/-- Whether it needs a comma behind it when it is the body of an arm. -/
def needsComma : Expression → Bool
  | whole _ (.block _) _ | whole _ .compound _ => false
  | _ => true

/-- Whether it needs a semicolon behind it when it is a statement. -/
def needsSemicolon : Expression → Bool
  | whole _ .braceMacro _ => false
  | e => e.needsComma

/-- Whether its first token is a label, attributes apart. -/
def startsWithLabel : Expression → Bool
  | whole _ _ (.lifetime _ :: _) => true
  | call _ first _ | dotted _ first _ | binary _ first _ _ | assignment _ first _
  | cast _ first _ _ | rangeFrom _ first _ | range _ first _ _ => first.startsWithLabel
  | _ => false

/-- Whether trees end with a group in braces. -/
def endWithBrace (trees : Trees) : Bool :=
  match trees.getLast? with
  | some (.group .brace _) => true
  | _ => false

/-- Whether its last token is a brace. -/
def endsWithBrace : Expression → Bool
  | whole _ _ trees | asWritten trees => endWithBrace trees
  | cast _ _ _ ending => ending = .brace
  | headed _ _ last | jump _ _ _ _ last | binary _ _ _ last | assignment _ _ last
  | rangeTo _ _ last | range _ _ _ last => last.endsWithBrace
  | call .. | dotted .. | rangeFull .. | rangeFrom .. => false

/-! ## Attributes -/

/-- Puts attributes before those that an expression has. -/
def withAttributes (more : Trees) : Expression → Expression
  | whole attributes form trees => whole (more ++ attributes) form trees
  | asWritten trees => asWritten trees
  | call attributes function arguments => call (more ++ attributes) function arguments
  | dotted attributes base suffix => dotted (more ++ attributes) base suffix
  | headed attributes head operand => headed (more ++ attributes) head operand
  | jump attributes head label isBreak operand =>
      jump (more ++ attributes) head label isBreak operand
  | binary attributes left operator right => binary (more ++ attributes) left operator right
  | assignment attributes left right => assignment (more ++ attributes) left right
  | cast attributes operand type ending => cast (more ++ attributes) operand type ending
  | rangeFull attributes limits => rangeFull (more ++ attributes) limits
  | rangeFrom attributes start limits => rangeFrom (more ++ attributes) start limits
  | rangeTo attributes limits stop => rangeTo (more ++ attributes) limits stop
  | range attributes start limits stop => range (more ++ attributes) start limits stop

/-- Puts attributes before the operand that an expression starts with.  The attributes of a
statement belong to that operand and not to the operators behind it. -/
def withLeftmostAttributes (more : Trees) : Expression → Expression
  | binary attributes left operator right =>
      binary attributes (left.withLeftmostAttributes more) operator right
  | assignment attributes left right =>
      assignment attributes (left.withLeftmostAttributes more) right
  | cast attributes operand type ending =>
      cast attributes (operand.withLeftmostAttributes more) type ending
  | e => e.withAttributes more

end Expression

end SequenceKit
