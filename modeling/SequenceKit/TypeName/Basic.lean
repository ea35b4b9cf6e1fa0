/-!
# Names of types

A printed type name is a tree: a path of identifiers that may carry generic arguments, or one of
the built-in forms.  This file holds the tree and its two readings.

* `TypeName` and `Argument` — the tree.  A path's arguments are lifetimes, types and constants in
  any order; no argument means no angle brackets.
* `TypeName.full` — the printed name, with all paths and lifetimes.
* `TypeName.stripped` — the structural short name: of each path the last identifier stays, and
  lifetimes go, from argument lists, references and bounds alike.
-/

namespace SequenceKit

mutual

/-- A type name as a tree. -/
inductive TypeName where
  /-- Identifiers joined by `::`, with generic arguments. -/
  | path (segments : List String) (arguments : List Argument)
  /-- `()`, `(A,)`, `(A, B)`, … -/
  | tuple (parts : List TypeName)
  /-- `[T]` -/
  | slice (element : TypeName)
  /-- `[T; N]` -/
  | array (element : TypeName) (length : String)
  /-- `&T`, `&mut T`, either with a lifetime. -/
  | reference (lifetime : Option String) (writable : Bool) (target : TypeName)
  /-- `*const T`, `*mut T` -/
  | pointer (writable : Bool) (target : TypeName)
  /-- `fn(A, B)`, `fn(A, B) -> R` -/
  | function (inputs : List TypeName) (output : Option TypeName)
  /-- `dyn A + B`, which may end in a lifetime. -/
  | dynamic (bounds : List TypeName) (lifetime : Option String)

/-- A generic argument of a path. -/
inductive Argument where
  /-- `'x`; the name is kept without its apostrophe. -/
  | lifetime (name : String)
  | type (t : TypeName)
  /-- A constant, as it is printed. -/
  | constant (text : String)

end

instance : Inhabited TypeName := ⟨.tuple []⟩

instance : Inhabited Argument := ⟨.constant ""⟩

namespace TypeName

/-! ## The printed name -/

/-- Texts between angle brackets, or nothing when there are none. -/
def angled : List String → String
  | [] => ""
  | texts => "<" ++ ", ".intercalate texts ++ ">"

/-- Texts between parentheses; a single one is followed by a comma. -/
def tupled : List String → String
  | [text] => "(" ++ text ++ ",)"
  | texts => "(" ++ ", ".intercalate texts ++ ")"

/-- A lifetime in front of what it governs. -/
def leadingLifetime : Option String → String
  | none => ""
  | some name => "'" ++ name ++ " "

/-- A lifetime at the end of a list of bounds. -/
def trailingLifetime : Option String → String
  | none => ""
  | some name => " + '" ++ name

/-- The output of a function type. -/
def arrow : Option String → String
  | none => ""
  | some text => " -> " ++ text

mutual

/-- The full printed name. -/
def full : TypeName → String
  | path segments arguments => "::".intercalate segments ++ angled (fullArguments arguments)
  | tuple parts => tupled (fullAll parts)
  | slice element => "[" ++ full element ++ "]"
  | array element length => "[" ++ full element ++ "; " ++ length ++ "]"
  | reference lifetime writable target =>
      "&" ++ leadingLifetime lifetime ++ (if writable then "mut " else "") ++ full target
  | pointer writable target => (if writable then "*mut " else "*const ") ++ full target
  | function inputs output =>
      "fn(" ++ ", ".intercalate (fullAll inputs) ++ ")" ++ arrow (fullOption output)
  | dynamic bounds lifetime =>
      "dyn " ++ " + ".intercalate (fullAll bounds) ++ trailingLifetime lifetime

/-- The full name of a generic argument. -/
def fullArgument : Argument → String
  | .lifetime name => "'" ++ name
  | .type t => full t
  | .constant text => text

/-- The full names of a path's arguments. -/
def fullArguments : List Argument → List String
  | [] => []
  | a :: rest => fullArgument a :: fullArguments rest

/-- The full names of several types. -/
def fullAll : List TypeName → List String
  | [] => []
  | t :: rest => full t :: fullAll rest

/-- The full name of a type that may be absent. -/
def fullOption : Option TypeName → Option String
  | none => none
  | some t => some (full t)

end

/-! ## The structural short name -/

/-- Of a path, its last identifier. -/
def lastOnly (segments : List String) : List String :=
  segments.drop (segments.length - 1)

mutual

/-- The short name as a tree: of each path the last identifier, and no lifetime anywhere. -/
def stripped : TypeName → TypeName
  | path segments arguments => path (lastOnly segments) (strippedArguments arguments)
  | tuple parts => tuple (strippedAll parts)
  | slice element => slice (stripped element)
  | array element length => array (stripped element) length
  | reference _ writable target => reference none writable (stripped target)
  | pointer writable target => pointer writable (stripped target)
  | function inputs output => function (strippedAll inputs) (strippedOption output)
  | dynamic bounds _ => dynamic (strippedAll bounds) none

/-- A generic argument without lifetimes; a lifetime itself is dropped. -/
def strippedArgument : Argument → Option Argument
  | .lifetime _ => none
  | .type t => some (.type (stripped t))
  | .constant text => some (.constant text)

/-- A path's arguments without its lifetimes. -/
def strippedArguments : List Argument → List Argument
  | [] => []
  | a :: rest => (strippedArgument a).toList ++ strippedArguments rest

/-- Several types, each without lifetimes. -/
def strippedAll : List TypeName → List TypeName
  | [] => []
  | t :: rest => stripped t :: strippedAll rest

/-- A type that may be absent, without lifetimes. -/
def strippedOption : Option TypeName → Option TypeName
  | none => none
  | some t => some (stripped t)

end

/-! ## Names of the library's own types -/

/-- A plain identifier. -/
def simple (identifier : String) : TypeName :=
  path [identifier] []

/-- A path with type arguments only. -/
def generic (segments : List String) (types : List TypeName) : TypeName :=
  path segments (types.map .type)

/-- The name of the immutable list of a type. -/
def listOf (t : TypeName) : TypeName :=
  generic ["seqcap", "list", "List"] [t]

/-- The name of a view of a type. -/
def viewOf (t : TypeName) : TypeName :=
  path ["seqcap", "view", "SequenceView"] [.lifetime "_", .type t]

/-- The name of `depth` views, each of the one before. -/
def viewsOf : Nat → TypeName → TypeName
  | 0, t => t
  | depth + 1, t => viewOf (viewsOf depth t)

end TypeName

end SequenceKit
