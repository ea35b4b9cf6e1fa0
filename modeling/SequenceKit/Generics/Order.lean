import SequenceKit.Source.Code

/-!
# Lifetimes first

In a list between angle brackets lifetimes are written before everything else, whatever the order
they were given in.  Each entry keeps the comma that followed it, and where a lifetime that had
none is moved to the front it gets one.

* **`lifetimesFirst`** — the entries in the order in which they are written.
* `Listed` — an entry with its comma.
-/

namespace SequenceKit.Generics

open SequenceKit.Source

/-- Entries as they are written: lifetimes first, otherwise in their order.  `leads` says which
entries are lifetimes, and `withComma` puts a comma behind an entry. -/
def lifetimesFirst {α : Type} (leads : α → Bool) (withComma : α → α) (entries : List α) :
    List α :=
  let lifetimes := entries.filter leads
  let others := entries.filter (!leads ·)
  (if others.isEmpty then lifetimes else lifetimes.map withComma) ++ others

/-- An entry of a list between angle brackets. -/
structure Listed where
  /-- Whether it is a lifetime. -/
  leads : Bool
  trees : Trees
  /-- Whether a comma follows it. -/
  comma : Bool

namespace Listed

/-- An entry with its comma. -/
def print (entry : Listed) : Trees :=
  entry.trees ++ commaIf entry.comma

/-- The written list, without its brackets. -/
def printAll (entries : List Listed) : Trees :=
  ((lifetimesFirst leads ({ · with comma := true }) entries).map print).flatten

end Listed

end SequenceKit.Generics
