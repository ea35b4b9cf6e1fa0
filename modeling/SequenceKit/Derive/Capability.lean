import SequenceKit.Sequence.Method

/-!
# Derivable capabilities

What a newtype can take over from the type it wraps.  A newtype takes over exactly the methods
listed here; whatever else a sequence offers it gets from the defaults.

* `Capability` — the five capabilities.
* `Capability.methods` — the methods that a derived capability forwards.
-/

namespace SequenceKit

/-- A capability that a newtype can take over from the type it wraps. -/
inductive Capability where
  | size
  | constIterable
  | mutIterable
  | randomAccess
  | sequence
  deriving DecidableEq, Repr

namespace Capability

/-- What a capability is called. -/
def name : Capability → String
  | size => "Size"
  | constIterable => "ConstIterable"
  | mutIterable => "MutIterable"
  | randomAccess => "RandomAccess"
  | sequence => "Sequence"

/-- All capabilities. -/
def all : List Capability :=
  [size, constIterable, mutIterable, randomAccess, sequence]

/-- The capability of a name. -/
def ofName? (text : String) : Option Capability :=
  all.find? (·.name == text)

/-- The methods that a newtype forwards when it takes over a capability. -/
def methods : Capability → List Method
  | size => [.size]
  | constIterable => [.iter]
  | mutIterable => [.iterMut]
  | randomAccess => [.get]
  | sequence => [.contains, .position, .index, .count, .indexBetween, .checkedAt]

end Capability

end SequenceKit
