/-!
# The shortest decimal that reads back

A binary float stands for all reals that round to it.  Of the decimals in that interval the ones
with the fewest digits are the shortest, and of these the one nearest to the float is taken; of
two equally near ones, the larger.

* `Interval` — the float and the ends of its interval, over a common denominator.
* `Decimal` — digits and a decimal point.
* **`Interval.shortest`** — the decimal that is written.

On a grid of decimals the nearest to the float lies in the interval as soon as any does, so only
the two neighbours of the float on each grid have to be tried.
-/

namespace SequenceKit

/-- A positive float and the ends of the interval of reals that round to it, as numerators over
one denominator. -/
structure Interval where
  low : Nat
  value : Nat
  high : Nat
  denominator : Nat
  /-- Whether the ends round to the float, too. -/
  closed : Bool

/-- The digits of a number without leading zeros, and how many of them stand before the decimal
point; the count may be negative or larger than the number of digits. -/
structure Decimal where
  digits : Nat
  point : Int
  deriving DecidableEq, Repr

namespace Interval

/-- The interval of the float `mantissa * 2 ^ exponent`.  Below a power of two the floats are
twice as dense, unless they are the densest already. -/
def ofFloat (mantissa : Nat) (exponent : Int) (denserBelow : Bool) : Interval :=
  let up := Nat.pow 2 (exponent - 2).toNat
  let down := Nat.pow 2 (2 - exponent).toNat
  { low := (4 * mantissa - if denserBelow then 1 else 2) * up
    value := 4 * mantissa * up
    high := (4 * mantissa + 2) * up
    denominator := down
    closed := mantissa % 2 == 0 }

/-- Whether the real `n / d` lies in the interval. -/
def holds (i : Interval) (n d : Nat) : Bool :=
  let left := i.low * d
  let right := i.high * d
  let x := n * i.denominator
  if i.closed then left ≤ x && x ≤ right else left < x && x < right

/-- The first exponent from `point` on, going up, with the value below ten to its power. -/
def raise (i : Interval) : (fuel : Nat) → (point : Nat) → Nat
  | 0, point => point
  | fuel + 1, point =>
      if i.value < i.denominator * 10 ^ point then point else raise i fuel (point + 1)

/-- How many zeros follow the decimal point of a value below one. -/
def zeros (i : Interval) : (fuel : Nat) → (count : Nat) → Nat
  | 0, count => count
  | fuel + 1, count =>
      if i.value * 10 ^ (count + 1) ≥ i.denominator then count else zeros i fuel (count + 1)

/-- How many digits of the value stand before the decimal point; negative for zeros behind it. -/
def point (i : Interval) : Int :=
  if i.value ≥ i.denominator then (raise i 400 1 : Nat) else -((zeros i 400 0 : Nat) : Int)

/-- A grid of decimals whose last digit stands `places` places behind the decimal point (before
it, if negative): a number `c` of its units is the real `c * unit / parts`. -/
structure Grid where
  unit : Nat
  parts : Nat

/-- The grid with the last digit at a place. -/
def Grid.ofPlaces (places : Int) : Grid :=
  ⟨Nat.pow 10 (-places).toNat, Nat.pow 10 places.toNat⟩

/-- The number of units of a grid that is nearest to the value, if it lies in the interval. -/
def nearest? (i : Interval) (g : Grid) : Option Nat :=
  let below := i.value * g.parts / (i.denominator * g.unit)
  let above := below + 1
  let inside := fun c => i.holds (c * g.unit) g.parts
  -- twice the distances from the value, over a common denominator
  let target := 2 * i.value * g.parts
  let middle := (below + above) * g.unit * i.denominator
  let order := if target < middle then [below, above] else [above, below]
  order.find? inside

/-- Tries one digit more until a grid has a decimal in the interval. -/
def search (i : Interval) (point : Int) : (fuel : Nat) → (digits : Nat) → Decimal
  | 0, digits => ⟨i.value * 10 ^ digits / i.denominator, point⟩
  | fuel + 1, digits =>
      match i.nearest? (.ofPlaces (digits - point)) with
      | some c =>
          -- rounding up may have brought one digit more, which is a zero at the end
          if c == 10 ^ digits then ⟨1, point + 1⟩ else ⟨c, point⟩
      | none => search i point fuel (digits + 1)

/-- The shortest decimal of the interval, nearest to the value.  Seventeen digits are always
enough. -/
def shortest (i : Interval) : Decimal :=
  search i i.point 17 1

end Interval

end SequenceKit
