import SequenceKit.Derive.Language
import SequenceKit.Proofs.Generics.Separated

/-!
# What is to be derived

The implementations that the derives are to write, word by word: one word for each token and each
delimiter, with every punctuation character on its own.  They are written down here as they are to
be read, in full for each capability, and share nothing with the functions that write them; what is
taken over from a declaration comes in as its words.

* `traitName`, `traitWords` — the capability that is implemented.
* `memberWords` — what stands between the braces, over the words of the wrapped type.
* `statementsOf` — the statements of the where clause.
* **`implementationWords`** — the whole implementation.
* `words_members` — the members are written so.
-/

namespace SequenceKit.Derive

open SequenceKit.Source SequenceKit.Generics

/-- The words of a text, which single blanks separate. -/
def spaced (text : String) : List String :=
  (text.toList.splitOn ' ').map String.ofList

/-! ## Capabilities -/

/-- The name of the trait that stands for a capability. -/
def traitName : Capability → String
  | .size => "Size"
  | .constIterable => "ConstIterable"
  | .mutIterable => "MutIterable"
  | .randomAccess => "RandomAccess"
  | .sequence => "Sequence"

/-- The trait by its path from the root. -/
def traitWords (c : Capability) : List String :=
  [":", ":", "seqcap", ":", ":", traitName c]

/-! ## Members -/

/-- The types that are taken over from the wrapped type. -/
def typeWords (c : Capability) (inner : List String) : List String :=
  match c with
  | .size | .sequence => []
  | .constIterable =>
      spaced "type Item = <" ++ inner ++ spaced "as : : seqcap : : ConstIterable > : : Item ;" ++
        spaced "type Cursor < '__seqcap > = <" ++ inner ++
        spaced "as : : seqcap : : ConstIterable > : : Cursor < '__seqcap >" ++
        spaced "where Self : '__seqcap ;"
  | .mutIterable =>
      spaced "type Item = <" ++ inner ++ spaced "as : : seqcap : : MutIterable > : : Item ;" ++
        spaced "type CursorMut < '__seqcap > = <" ++ inner ++
        spaced "as : : seqcap : : MutIterable > : : CursorMut < '__seqcap >" ++
        spaced "where Self : '__seqcap ;"
  | .randomAccess =>
      spaced "type Item = <" ++ inner ++ spaced "as : : seqcap : : RandomAccess > : : Item ;"

/-- The functions that call those of the wrapped value. -/
def functionWords : Capability → List String
  | .size =>
      spaced "# [ inline ] fn size ( & self ) - > usize" ++
        spaced "\x7b : : seqcap : : Size : : size ( & self . 0 ) \x7d"
  | .constIterable =>
      spaced "# [ inline ] fn iter ( & self ) - > Self : : Cursor < '_ >" ++
        spaced "\x7b : : seqcap : : ConstIterable : : iter ( & self . 0 ) \x7d"
  | .mutIterable =>
      spaced "# [ inline ] fn iter_mut ( & mut self ) - > Self : : CursorMut < '_ >" ++
        spaced "\x7b : : seqcap : : MutIterable : : iter_mut ( & mut self . 0 ) \x7d"
  | .randomAccess =>
      spaced "# [ inline ] fn at ( & self , index : usize ) - > & Self : : Item" ++
        spaced "\x7b : : seqcap : : RandomAccess : : at ( & self . 0 , index ) \x7d"
  | .sequence =>
      spaced "# [ inline ] fn contains ( & self , value : & : : seqcap : : Element < Self > )" ++
        spaced "- > bool \x7b : : seqcap : : Sequence : : contains ( & self . 0 , value ) \x7d" ++
        spaced "# [ inline ] fn position ( & self , value : & : : seqcap : : Element < Self > )" ++
        spaced "- > : : core : : option : : Option < usize >" ++
        spaced "\x7b : : seqcap : : Sequence : : position ( & self . 0 , value ) \x7d" ++
        spaced "# [ inline ] fn index ( & self , value : & : : seqcap : : Element < Self > )" ++
        spaced "- > isize \x7b : : seqcap : : Sequence : : index ( & self . 0 , value ) \x7d" ++
        spaced "# [ inline ] fn count ( & self , value : & : : seqcap : : Element < Self > )" ++
        spaced "- > usize \x7b : : seqcap : : Sequence : : count ( & self . 0 , value ) \x7d" ++
        spaced "# [ inline ] fn index_between ( & self ," ++
        spaced "value : & : : seqcap : : Element < Self > , from : usize , to : usize , )" ++
        spaced "- > : : seqcap : : Result < usize > \x7b : : seqcap : : Sequence : :" ++
        spaced "index_between ( & self . 0 , value , from , to ) \x7d" ++
        spaced "# [ inline ] fn checked_at ( & self , index : usize )" ++
        spaced "- > : : seqcap : : Result < & : : seqcap : : Element < Self > >" ++
        spaced "\x7b : : seqcap : : Sequence : : checked_at ( & self . 0 , index ) \x7d"

/-- The members of an implementation over the words of the wrapped type. -/
def memberWords (c : Capability) (inner : List String) : List String :=
  typeWords c inner ++ functionWords c

/-! ## Implementations -/

/-- What the where clause of an implementation states: what the declaration states, and if that
has a parameter, of whatever sort, that the wrapped type has the capability. -/
def statementsOf (c : Capability) (generics : Generics) (inner : List String) :
    List (List String) :=
  generics.predicates.map Predicate.statement ++
    if generics.parameters.isEmpty then [] else [inner ++ ":" :: traitWords c]

/-- The implementation of a capability for an item, over the words of the type that the item wraps.
Behind each of the three lists of its head there may be one comma more. -/
def implementationWords (c : Capability) (item : Item) (inner : List String)
    (declared applied stated : Bool) : List String :=
  let parameters := lifetimesThenOthers item.generics.parameters
  "impl" :: inAngles (parameters.map Parameter.declaration) declared ++ traitWords c ++
    "for" :: item.name.words ++ inAngles (parameters.map (·.name.words)) applied ++
    behindWhere (statementsOf c item.generics inner) stated ++
    "\x7b" :: (memberWords c inner ++ ["\x7d"])

/-! ## What is written -/

lemma words_capabilityPath (c : Capability) : treesWords (capabilityPath c) = traitWords c := by
  cases c <;> decide +kernel

lemma words_functions (c : Capability) :
    treesWords (c.methods.map (forward c)).flatten = functionWords c := by
  cases c <;> decide +kernel

/-- A type that is taken over is written around the words of the wrapped type. -/
lemma words_takenType {c : Capability} {name arguments condition : Trees}
    {before behind : List String} (inner : Trees)
    (opens : treesWords (words "type" ++ name ++ arguments ++ words "= <") = before)
    (closes : treesWords (words "as" ++ capabilityPath c ++ words ">" ++ colons ++ name ++
      arguments ++ condition ++ words ";") = behind) :
    treesWords (takenType c inner name arguments condition) =
      before ++ treesWords inner ++ behind := by
  rw [← opens, ← closes]
  simp only [takenType, angled, treesWords_append, List.append_assoc]
  rfl

lemma words_takenTypes (c : Capability) (inner : Trees) :
    treesWords (takenTypes c inner) = typeWords c (treesWords inner) := by
  cases c with
  | size => rfl
  | constIterable =>
      have item : treesWords (takenItem .constIterable inner) = spaced "type Item = <" ++
          treesWords inner ++ spaced "as : : seqcap : : ConstIterable > : : Item ;" :=
        words_takenType inner (by decide +kernel) (by decide +kernel)
      have cursor : treesWords (takenCursor .constIterable inner false) =
          spaced "type Cursor < '__seqcap > = <" ++ treesWords inner ++
            (spaced "as : : seqcap : : ConstIterable > : : Cursor < '__seqcap >" ++
              spaced "where Self : '__seqcap ;") :=
        words_takenType inner (by decide +kernel) (by decide +kernel)
      rw [takenTypes, treesWords_append, item, cursor]
      simp only [typeWords, List.append_assoc]
  | mutIterable =>
      have item : treesWords (takenItem .mutIterable inner) = spaced "type Item = <" ++
          treesWords inner ++ spaced "as : : seqcap : : MutIterable > : : Item ;" :=
        words_takenType inner (by decide +kernel) (by decide +kernel)
      have cursor : treesWords (takenCursor .mutIterable inner true) =
          spaced "type CursorMut < '__seqcap > = <" ++ treesWords inner ++
            (spaced "as : : seqcap : : MutIterable > : : CursorMut < '__seqcap >" ++
              spaced "where Self : '__seqcap ;") :=
        words_takenType inner (by decide +kernel) (by decide +kernel)
      rw [takenTypes, treesWords_append, item, cursor]
      simp only [typeWords, List.append_assoc]
  | randomAccess => exact words_takenType inner (by decide +kernel) (by decide +kernel)
  | sequence => rfl

/-- The members of an implementation are as they are to be. -/
lemma words_members (c : Capability) (inner : Trees) :
    treesWords (members c inner) = memberWords c (treesWords inner) := by
  rw [members, treesWords_append, words_takenTypes, words_functions, memberWords]

end SequenceKit.Derive
