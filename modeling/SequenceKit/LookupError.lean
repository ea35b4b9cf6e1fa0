import SequenceKit.Text.Record

/-!
# Why a lookup has no answer

A lookup that can refuse its arguments says why with a `LookupError`.  The cause is a value;
its two texts are functions of it.

* `LookupError` — the three causes.
* `LookupError.message` — the sentence shown to a user.
* `LookupError.recordText` — the cause and its fields, as a record.
-/

namespace SequenceKit

/-- Why a checked lookup has no answer. -/
inductive LookupError where
  /-- A read at `index` of a sequence that has only `len` elements. -/
  | indexTooHigh (index len : Nat)
  /-- A search in a range that is reversed or reaches past the end. -/
  | invalidRange (start stop len : Nat)
  /-- A search that met no equal element. -/
  | valueNotFound
  deriving DecidableEq, Repr

namespace LookupError

/-- The name of the cause. -/
def name : LookupError → String
  | indexTooHigh .. => "IndexTooHigh"
  | invalidRange .. => "InvalidRange"
  | valueNotFound => "ValueNotFound"

/-- The sentence shown to a user. -/
def message : LookupError → String
  | indexTooHigh index len => s!"Index too high: index: {index}, len: {len}"
  | invalidRange start stop len =>
      s!"Invalid range {start}..{stop} for sequence of len {len}"
  | valueNotFound => "Value not found in sequence"

/-- The fields of the cause, in order. -/
def fields : LookupError → List (String × String)
  | indexTooHigh index len => [("index", toString index), ("len", toString len)]
  | invalidRange start stop len =>
      [("from", toString start), ("to", toString stop), ("len", toString len)]
  | valueNotFound => []

/-- The cause as a record. -/
def recordText (e : LookupError) : String :=
  Text.record e.name e.fields

end LookupError

end SequenceKit
