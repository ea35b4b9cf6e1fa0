import SequenceKit.Source.Code

/-!
# Levels and operators

How tightly operators hold their operands together, and the operators that stand between two
operands.

* `Level` — the levels, loosest first, with their order.
* `Operator` — an operator with its level.
* `binaryOperators` — all operators, the longest first where one starts another.
-/

namespace SequenceKit.Expression

open SequenceKit.Source

/-- How tightly an operator holds its operands together, loosest first. -/
inductive Level where
  /-- No operator at all. -/
  | loosest
  | assign
  | range
  | or
  | and
  | compare
  | bitOr
  | bitXor
  | bitAnd
  | shift
  | sum
  | product
  | cast
  deriving DecidableEq, Repr

namespace Level

/-- A level is below another if it binds more loosely. -/
instance : LT Level := ⟨fun a b => a.ctorIdx < b.ctorIdx⟩

instance : LE Level := ⟨fun a b => a.ctorIdx ≤ b.ctorIdx⟩

instance (a b : Level) : Decidable (a < b) :=
  inferInstanceAs (Decidable (a.ctorIdx < b.ctorIdx))

instance (a b : Level) : Decidable (a ≤ b) :=
  inferInstanceAs (Decidable (a.ctorIdx ≤ b.ctorIdx))

end Level

/-- An operator between two operands. -/
structure Operator where
  text : String
  level : Level
  deriving DecidableEq, Repr

namespace Operator

/-- An operator as it is written. -/
def trees (o : Operator) : Trees :=
  marks o.text

/-- Whether the arguments of a path could start with the same characters. -/
def startsArguments (o : Operator) : Bool :=
  ["<<", "<"].contains o.text

end Operator

/-- The operators between two operands, longer ones first. -/
def binaryOperators : List Operator :=
  [⟨"<<=", .assign⟩, ⟨">>=", .assign⟩, ⟨"+=", .assign⟩, ⟨"-=", .assign⟩, ⟨"*=", .assign⟩,
    ⟨"/=", .assign⟩, ⟨"%=", .assign⟩, ⟨"^=", .assign⟩, ⟨"&=", .assign⟩, ⟨"|=", .assign⟩,
    ⟨"&&", .and⟩, ⟨"||", .or⟩, ⟨"<<", .shift⟩, ⟨">>", .shift⟩, ⟨"==", .compare⟩,
    ⟨"<=", .compare⟩, ⟨"!=", .compare⟩, ⟨">=", .compare⟩, ⟨"+", .sum⟩, ⟨"-", .sum⟩,
    ⟨"*", .product⟩, ⟨"/", .product⟩, ⟨"%", .product⟩, ⟨"^", .bitXor⟩, ⟨"&", .bitAnd⟩,
    ⟨"|", .bitOr⟩, ⟨"<", .compare⟩, ⟨">", .compare⟩]

end SequenceKit.Expression
