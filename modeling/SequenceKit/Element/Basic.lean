import SequenceKit.Element.AtMost
import SequenceKit.Element.Binary64
import SequenceKit.Text.Quoted
import SequenceKit.Text.Record

/-!
# Elements

What the containers need of their elements beside the comparison `==`: an order, a text, and a
way to change an element a little, which makes writes visible.

* `Element` — the class of element types.
* `Frozen` — an immutable list, which is an element type as well as a container.
-/

namespace SequenceKit

/-- An element type. -/
class Element (α : Type) where
  /-- Whether the first is above the second. -/
  greater : α → α → Bool
  /-- A small change. -/
  bump : α → α
  /-- The text that shows an element. -/
  text : α → String

/-- An immutable list. -/
structure Frozen (α : Type) where
  items : List α
  deriving Inhabited

/-- Two immutable lists are compared element by element, with those of the first on the left. -/
instance {α : Type} [BEq α] : BEq (Frozen α) where
  beq a b := a.items == b.items

/-- The text that shows an immutable list. -/
def Frozen.text {α : Type} [Element α] (list : Frozen α) : String :=
  Text.record "List" [("items", Text.bracketed (list.items.map Element.text))]

/-- Whether the first list is above the second: at the first difference, or by its length. -/
def lexicographic {α : Type} [Element α] : List α → List α → Bool
  | [], _ => false
  | _ :: _, [] => true
  | a :: as, b :: bs =>
      if Element.greater a b then true
      else if Element.greater b a then false
      else lexicographic as bs

/-! ## Element types -/

instance : Element Int64 where
  greater a b := a > b
  bump a := a + 1
  text a := toString a.toInt

instance : Element UInt8 where
  greater a b := a > b
  bump a := a + 1
  text a := toString a.toNat

/-- Texts are ordered by code points. -/
instance : Element String where
  greater a b := b < a
  bump a := a ++ "!"
  text a := Text.quoted a

/-- The other case of an ASCII letter. -/
def otherCase (c : Char) : Char :=
  if c.isLower then c.toUpper else c.toLower

instance : Element Char where
  greater a b := a > b
  bump := otherCase
  text a := Text.quotedChar a

instance : Element Bool where
  greater a b := a && !b
  bump a := !a
  text a := if a then "true" else "false"

instance : Element Binary64 where
  greater := Binary64.greater
  bump := Binary64.negate
  text := Binary64.text

instance : Element AtMost where
  greater := AtMost.greater
  bump a := ⟨a.value + 1⟩
  text a := "Le(" ++ Element.text a.value ++ ")"

/-- Nothing is below everything else. -/
instance : Element (Option Int64) where
  greater
    | some a, some b => Element.greater a b
    | some _, none => true
    | none, _ => false
  bump
    | some a => some (a + 1)
    | none => some 0
  text
    | some a => "Some(" ++ Element.text a ++ ")"
    | none => "None"

/-- Pairs are ordered by their first parts, and by their second parts where these are equal. -/
instance : Element (Int64 × String) where
  greater a b := a.1 > b.1 || (a.1 == b.1 && Element.greater a.2 b.2)
  bump a := (a.1 + 1, a.2)
  text a := "(" ++ Element.text a.1 ++ ", " ++ Element.text a.2 ++ ")"

instance : Element (Frozen Int64) where
  greater a b := lexicographic a.items b.items
  bump a := ⟨a.items ++ [0]⟩
  text := Frozen.text

instance : Element Unit where
  greater _ _ := false
  bump a := a
  text _ := "()"

end SequenceKit
