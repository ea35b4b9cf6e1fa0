import SequenceKit.Expression.Basic

/-!
# Writing expressions

An expression that was read is written as it stood, since its parts were found in this order without
parentheses.  Only where the same words might mean something else parentheses are put around an
operand, whether or not the reader could have told: a macro call with braces before an operator
might be a statement of its own, a type before a less-than sign might go on with arguments, a block
behind a range might be the block of a condition, and a label behind `break` might be where it
leads.

* `Surroundings` — what stands around an expression.
* `Surroundings.groups` — whether an expression needs parentheses there.
* **`Expression.print`** — an expression as it is written.
-/

namespace SequenceKit.Expression

open SequenceKit.Source

/-! ## What stands around an expression -/

/-- What stands around an expression. -/
structure Surroundings where
  /-- It is a statement. -/
  statement : Bool := false
  /-- It is the first operand of a statement, before an operator or a group. -/
  startsStatement : Bool := false
  /-- It is a part of a condition, where a brace would start the block. -/
  condition : Bool := false
  /-- Within a condition, it starts an operand that may be left out. -/
  startsOptional : Bool := false
  /-- The sign behind it could open the arguments of a path. -/
  beforeArguments : Bool := false

namespace Surroundings

/-- Between delimiters or other tokens that end an expression. -/
def free : Surroundings := {}

/-- As a statement. -/
def ofStatement : Surroundings := { statement := true }

/-- As a condition, which a block follows. -/
def ofCondition : Surroundings := { condition := true }

/-- An operand before an operator or a group. -/
def leftOf (c : Surroundings) (opensArguments : Bool) : Surroundings :=
  { c with
    statement := false
    startsStatement := c.statement || c.startsStatement
    beforeArguments := opensArguments }

/-- What stands before a point or a question mark.  A statement that starts with a block goes on
there, and so does one that starts with a macro call. -/
def beforePoint (c : Surroundings) : Surroundings :=
  { c with
    statement := c.statement || c.startsStatement
    startsStatement := false
    beforeArguments := false }

/-- An operand behind an operator or a head; `optional` says that it may be left out. -/
def rightOf (c : Surroundings) (optional : Bool) : Surroundings :=
  { c with
    statement := false
    startsStatement := false
    startsOptional := c.condition && optional }

/-- The operand of a jump, in which braces mean the same within a condition as elsewhere. -/
def inJump (c : Surroundings) (optional : Bool) : Surroundings :=
  { c.rightOf optional with condition := false }

/-- Whether an expression needs parentheses where it stands. -/
def groups (c : Surroundings) (e : Expression) : Bool :=
  (c.startsStatement && !e.needsSemicolon) ||
    match e with
    | whole attributes (.block true) _ => c.startsOptional && attributes.isEmpty
    | cast _ _ _ ending => c.beforeArguments && ending = .path
    | _ => false

end Surroundings

/-! ## Printing -/

/-- Operators behind attributes are written between parentheses, lest the attributes seem to belong
to the first operand only. -/
def behindAttributes (attributes : Trees) (print : Surroundings → Trees) (c : Surroundings) :
    Trees :=
  if attributes.isEmpty then print c else attributes ++ parens (print .free)

/-- An expression as it is written where it stands. -/
def print (e : Expression) (around : Surroundings) : Trees :=
  let grouped := around.groups e
  let c := if grouped then .free else around
  let trees :=
    match e with
    | whole attributes _ trees => attributes ++ trees
    | asWritten trees => trees
    | call attributes function arguments =>
        attributes ++ print function (c.leftOf false) ++ arguments
    | dotted attributes base suffix => attributes ++ print base c.beforePoint ++ suffix
    | headed attributes head operand => attributes ++ head ++ print operand (c.rightOf false)
    | jump attributes head label isBreak operand =>
        let leads := isBreak && label.isEmpty && operand.startsWithLabel
        attributes ++ head ++ label ++
          (if leads then parens (print operand .free) else print operand (c.inJump isBreak))
    | binary attributes left operator right =>
        behindAttributes attributes (fun c =>
          print left (c.leftOf operator.startsArguments) ++ operator.trees ++
            print right (c.rightOf false)) c
    | assignment attributes left right =>
        behindAttributes attributes (fun c =>
          print left (c.leftOf false) ++ marks "=" ++ print right (c.rightOf false)) c
    | cast attributes operand type _ =>
        behindAttributes attributes (fun c =>
          print operand (c.leftOf false) ++ words "as" ++ type) c
    | rangeFull attributes limits => behindAttributes attributes (fun _ => limits) c
    | rangeFrom attributes start limits =>
        behindAttributes attributes (fun c => print start (c.leftOf false) ++ limits) c
    | rangeTo attributes limits stop =>
        behindAttributes attributes (fun c => limits ++ print stop (c.rightOf true)) c
    | range attributes start limits stop =>
        behindAttributes attributes (fun c =>
          print start (c.leftOf false) ++ limits ++ print stop (c.rightOf true)) c
  if grouped then parens trees else trees

end SequenceKit.Expression
