import SequenceKit.TypeName.Short

/-!
# Remembered short names

Short names are computed once for each full name and remembered.

* `NameCache` — full names with their short names, latest first.
* `NameCache.find?` — the remembered short name of a full name.
* `NameCache.shorten` — the short name of a full name and the cache afterwards.
-/

namespace SequenceKit

/-- The short names computed so far, each with its full name. -/
structure NameCache where
  entries : List (String × String)

namespace NameCache

/-- A cache that remembers nothing. -/
def empty : NameCache :=
  ⟨[]⟩

/-- The short name remembered for a full name. -/
def find? (cache : NameCache) (full : String) : Option String :=
  cache.entries.lookup full

/-- The short name of `full`, read from the cache or else computed and remembered. -/
def shorten (cache : NameCache) (full : String) : String × NameCache :=
  match cache.find? full with
  | some short => (short, cache)
  | none =>
      let short := ShortName.shorten full
      (short, ⟨(full, short) :: cache.entries⟩)

end NameCache

end SequenceKit
