import SequenceKit.Generics.Order

/-!
# Generic parameters and predicates

What a declaration says between its angle brackets and behind `where`.

* `Parameter` — a lifetime, type or constant parameter; `Parameter.name` is its bare name.
* `Predicate` — one predicate of a where clause.
* `Generics` — the parameters and predicates of a declaration.
* `printParameters`, `printWhere` — how they are written; of an empty list nothing is written.
-/

namespace SequenceKit.Generics

open SequenceKit.Source

/-! ## Parameters -/

/-- What a generic parameter stands for. -/
inductive ParameterKind where
  /-- A lifetime, with the lifetimes it outlives. -/
  | lifetime (bounds : Trees)
  /-- A type, with its bounds and its default. -/
  | type (bounds : Trees) (default : Option Trees)
  /-- A constant, with its type and its default. -/
  | constant (type : Trees) (default : Option Trees)

/-- A generic parameter. -/
structure Parameter where
  attributes : Trees
  name : Tree
  kind : ParameterKind
  /-- Whether a comma follows it. -/
  comma : Bool

namespace Parameter

/-- Whether a parameter is a lifetime. -/
def isLifetime (p : Parameter) : Bool :=
  match p.kind with
  | .lifetime _ => true
  | _ => false

/-- A parameter without its default. -/
def withoutDefault (p : Parameter) : Parameter :=
  match p.kind with
  | .lifetime _ => p
  | .type bounds _ => { p with kind := .type bounds none }
  | .constant type _ => { p with kind := .constant type none }

end Parameter

/-- Bounds behind a colon; without bounds there is no colon. -/
def boundsBehind (bounds : Trees) : Trees :=
  if bounds.isEmpty then [] else words ":" ++ bounds

/-- A value behind an equals sign, if there is one. -/
def valueBehind (value : Option Trees) : Trees :=
  match value with
  | some value => words "=" ++ value
  | none => []

/-- A parameter as it is declared. -/
def Parameter.print (p : Parameter) : Trees :=
  p.attributes ++
    (match p.kind with
    | .lifetime bounds => p.name :: boundsBehind bounds
    | .type bounds default => p.name :: boundsBehind bounds ++ valueBehind default
    | .constant type default =>
        words "const" ++ p.name :: words ":" ++ type ++ valueBehind default) ++
    commaIf p.comma

/-- A parameter as it is used: its bare name. -/
def Parameter.printName (p : Parameter) : Trees :=
  p.name :: commaIf p.comma

/-- Parameters as they are declared, between angle brackets and in their order. -/
def printInOrder (print : Parameter → Trees) (parameters : List Parameter) : Trees :=
  if parameters.isEmpty then [] else angled (parameters.map print).flatten

/-- Parameters in the order in which they are written. -/
def inWrittenOrder (parameters : List Parameter) : List Parameter :=
  lifetimesFirst Parameter.isLifetime ({ · with comma := true }) parameters

/-- Parameters as they are declared, lifetimes first. -/
def printParameters (parameters : List Parameter) : Trees :=
  printInOrder Parameter.print (inWrittenOrder parameters)

/-! ## Predicates -/

/-- One predicate of a where clause. -/
structure Predicate where
  /-- The binder, if there is one. -/
  binder : Trees
  /-- The type or lifetime that is bounded. -/
  subject : Trees
  bounds : Trees
  /-- Whether a comma follows it. -/
  comma : Bool

/-- A predicate; its colon stays even where no bound follows. -/
def Predicate.print (p : Predicate) : Trees :=
  p.binder ++ p.subject ++ words ":" ++ p.bounds ++ commaIf p.comma

/-- A where clause. -/
def printWhere (predicates : List Predicate) : Trees :=
  if predicates.isEmpty then [] else words "where" ++ (predicates.map Predicate.print).flatten

end SequenceKit.Generics

namespace SequenceKit

/-- The generic parameters of a declaration and the predicates on them. -/
structure Generics where
  parameters : List Generics.Parameter
  predicates : List Generics.Predicate

end SequenceKit
