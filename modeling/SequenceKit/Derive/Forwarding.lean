import SequenceKit.Derive.Capability
import SequenceKit.Source.Code

/-!
# Forwarding code

The members of a derived implementation: the types that it takes over from the wrapped type, and
for each method a function that calls the method of the wrapped value with the same arguments.

* `Signature` — the arguments and the result of a forwarded method.
* `forward` — the function that forwards a method.
* **`members`** — all members for a capability.
-/

namespace SequenceKit.Derive

open SequenceKit.Source

/-- What a forwarded function takes beside the value itself, and what it returns. -/
structure Signature where
  /-- Whether it may write to the value. -/
  writes : Bool
  /-- Further arguments with their types. -/
  inputs : List (String × Trees)
  /-- Whether the list of arguments is laid out over several lines, so that it ends in a comma. -/
  spread : Bool
  output : Trees

/-- A capability by its path. -/
def capabilityPath (c : Capability) : Trees :=
  rootPath ["seqcap", c.name]

/-- The element type of the implementing type. -/
def elementType : Trees :=
  rootPath ["seqcap", "Element"] ++ angled (words "Self")

/-- A reference to an element, as an argument. -/
def valueInput : String × Trees :=
  ("value", words "&" ++ elementType)

/-- A position, as an argument. -/
def sizeInput (name : String) : String × Trees :=
  (name, words "usize")

/-- A result that may be an error. -/
def fallible (output : Trees) : Trees :=
  rootPath ["seqcap", "Result"] ++ angled output

/-- The name of the type of a cursor. -/
def cursorName (writes : Bool) : String :=
  if writes then "CursorMut" else "Cursor"

/-- The arguments and the result of a method. -/
def signature : Method → Signature
  | .size => ⟨false, [], false, words "usize"⟩
  | .isEmpty => ⟨false, [], false, words "bool"⟩
  | .iter => ⟨false, [], false, words "Self" ++ colons ++ words "Cursor < '_ >"⟩
  | .iterMut => ⟨true, [], false, words "Self" ++ colons ++ words "CursorMut < '_ >"⟩
  | .get => ⟨false, [sizeInput "index"], false, words "& Self" ++ colons ++ words "Item"⟩
  | .contains => ⟨false, [valueInput], false, words "bool"⟩
  | .position =>
      ⟨false, [valueInput], false, rootPath ["core", "option", "Option"] ++ words "< usize >"⟩
  | .index => ⟨false, [valueInput], false, words "isize"⟩
  | .count => ⟨false, [valueInput], false, words "usize"⟩
  | .indexBetween =>
      ⟨false, [valueInput, sizeInput "from", sizeInput "to"], true, fallible (words "usize")⟩
  | .checkedAt =>
      ⟨false, [sizeInput "index"], false, fallible (words "&" ++ elementType)⟩
  | .first | .last =>
      ⟨false, [], false,
        rootPath ["core", "option", "Option"] ++ angled (words "&" ++ elementType)⟩

/-- A reference, which writes or does not. -/
def reference (writes : Bool) : Trees :=
  words (if writes then "& mut" else "&")

/-- The function that forwards a method to the wrapped value. -/
def forward (c : Capability) (m : Method) : Trees :=
  let s := signature m
  let declared := (s.inputs.map fun i => words "," ++ words i.1 ++ words ":" ++ i.2).flatten
  let passed := (s.inputs.map fun i => words "," ++ words i.1).flatten
  words "#" ++ brackets (words "inline") ++ words "fn" ++ words m.name ++
    parens (reference s.writes ++ words "self" ++ declared ++
      (if s.spread then words "," else [])) ++
    words "- >" ++ s.output ++
    braces (capabilityPath c ++ colons ++ words m.name ++
      parens (reference s.writes ++ words "self ." ++ [.literal "0"] ++ passed))

/-- The lifetime of a cursor, under a name that no item uses. -/
def cursorLifetime : Trees :=
  words "'__seqcap"

/-- A type that the implementation takes over from the wrapped type. -/
def takenType (c : Capability) (inner : Trees) (name arguments condition : Trees) : Trees :=
  words "type" ++ name ++ arguments ++ words "=" ++
    angled (inner ++ words "as" ++ capabilityPath c) ++ colons ++ name ++ arguments ++ condition ++
    words ";"

/-- The element type, taken over. -/
def takenItem (c : Capability) (inner : Trees) : Trees :=
  takenType c inner (words "Item") [] []

/-- The type of a cursor, taken over. -/
def takenCursor (c : Capability) (inner : Trees) (writes : Bool) : Trees :=
  takenType c inner (words (cursorName writes)) (angled cursorLifetime)
    (words "where Self :" ++ cursorLifetime)

/-- The types that a derived capability takes over from the wrapped type `inner`. -/
def takenTypes (c : Capability) (inner : Trees) : Trees :=
  match c with
  | .size | .sequence => []
  | .constIterable => takenItem c inner ++ takenCursor c inner false
  | .mutIterable => takenItem c inner ++ takenCursor c inner true
  | .randomAccess => takenItem c inner

/-- The members of a derived implementation over the wrapped type `inner`. -/
def members (c : Capability) (inner : Trees) : Trees :=
  takenTypes c inner ++ (c.methods.map (forward c)).flatten

end SequenceKit.Derive
