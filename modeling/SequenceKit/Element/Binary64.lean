import SequenceKit.Decimal.Shortest

/-!
# Binary floats by their bits

A double-precision number is kept as its 64 bits, so that the payload of a NaN survives a move.
Comparison is by value: a NaN equals nothing and is above and below nothing, and both zeros are
equal.

* `Binary64` — the bits; `Binary64.key` orders all numbers but NaNs.
* `Binary64.negate` — the other sign.
* `Binary64.text` — the shortest decimal that reads back.
-/

namespace SequenceKit

/-- A double-precision number, as its bits. -/
structure Binary64 where
  bits : UInt64
  deriving DecidableEq, Repr, Inhabited

namespace Binary64

/-- The bit of the sign. -/
def signBit : UInt64 :=
  0x8000000000000000

/-- The bits without the sign. -/
def magnitude (x : Binary64) : UInt64 :=
  x.bits &&& 0x7fffffffffffffff

/-- The magnitude of the infinities. -/
def infinity : UInt64 :=
  0x7ff0000000000000

def isNegative (x : Binary64) : Bool :=
  x.bits &&& signBit != 0

def isNaN (x : Binary64) : Bool :=
  x.magnitude > infinity

/-- A number that grows with the value; both zeros have the same. -/
def key (x : Binary64) : Int :=
  if x.isNegative then -(x.magnitude.toNat : Int) else x.magnitude.toNat

instance : BEq Binary64 where
  beq x y := !x.isNaN && !y.isNaN && x.key == y.key

/-- Whether `x` is above `y`. -/
def greater (x y : Binary64) : Bool :=
  !x.isNaN && !y.isNaN && x.key > y.key

/-- The number with the other sign. -/
def negate (x : Binary64) : Binary64 :=
  ⟨x.bits ^^^ signBit⟩

/-! ## Text -/

/-- The interval of a positive finite number. -/
def interval (x : Binary64) : Interval :=
  let exponent := (x.magnitude >>> 52).toNat
  let fraction := (x.magnitude &&& 0xfffffffffffff).toNat
  if exponent == 0 then .ofFloat fraction (-1074) false
  else .ofFloat (fraction + 0x10000000000000) (exponent - 1075) (fraction == 0 && exponent > 1)

/-- Digits in positional notation, with at least one of them behind the point. -/
def positional (digits : List Char) (point : Int) : List Char :=
  if point ≤ 0 then "0.".toList ++ List.replicate (-point).toNat '0' ++ digits
  else if point.toNat ≥ digits.length then
    digits ++ List.replicate (point.toNat - digits.length) '0' ++ ".0".toList
  else digits.take point.toNat ++ '.' :: digits.drop point.toNat

/-- Digits in scientific notation, with the first of them before the point. -/
def scientific (digits : List Char) (point : Int) : List Char :=
  let fraction := digits.drop 1
  digits.take 1 ++ (if fraction.isEmpty then [] else '.' :: fraction) ++
    'e' :: (toString (point - 1)).toList

/-- The text of a number: the shortest decimal that reads back, positional from one ten
thousandth up to but without ten to the sixteenth. -/
def text (x : Binary64) : String :=
  if x.isNaN then "NaN"
  else
    let body :=
      if x.magnitude == infinity then "inf".toList
      else if x.magnitude == 0 then "0.0".toList
      else
        let d := x.interval.shortest
        let digits := (toString d.digits).toList
        if d.point ≤ -4 || d.point ≥ 17 then scientific digits d.point
        else positional digits d.point
    String.ofList (if x.isNegative then '-' :: body else body)

end Binary64

end SequenceKit
