import SequenceKit.Expression.Level
import SequenceKit.Grammar.Reader

/-!
# Operators that come next

* `nextOperator?` — the operator between two operands that comes next.
* `nextLevel` — the level of what comes next, assignments, ranges and casts included.
-/

namespace SequenceKit.Grammar

open SequenceKit.Source SequenceKit.Expression

/-- The operator that comes next. -/
def nextOperator? (ts : Trees) : Option Operator :=
  binaryOperators.find? fun o => startsMark o.text ts

/-- Whether a plain assignment comes next. -/
def startsAssignment (ts : Trees) : Bool :=
  startsMark "=" ts && !startsMark "=>" ts

/-- The level of what comes next; the loosest if it is no operator. -/
def nextLevel (ts : Trees) : Level :=
  match nextOperator? ts with
  | some operator => operator.level
  | none =>
      if startsAssignment ts then .assign
      else if startsMark ".." ts then .range
      else if startsWord "as" ts then .cast
      else .loosest

end SequenceKit.Grammar
