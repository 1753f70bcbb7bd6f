/-
The fewest digits that read back.

A number of 64 bits is written with the fewest decimal digits that round to it, and of
those with the digits nearest to it.  The numbers that round to `x` are the interval
between the midpoints to its neighbours, ends included when the place of `x` is even.
For one digit, two, and so on, the two points of that decimal grid on either side of the
magnitude are tried; if any point of a grid lies in the interval, one of these two does.
-/
import VarlinkClient.Decimal.Binary64

namespace VarlinkClient.Shortest

open Binary64 (Ratio)

/-- A decimal number `0.d₁d₂… · 10 ^ point`: its digits, without zeros at the end, and where
the decimal point stands in them. -/
structure Digits where
  /-- The digits as a natural number. -/
  digits : Nat
  /-- How many digits stand before the point; less than one when zeros follow the point. -/
  point : Int
  deriving DecidableEq, Repr

/-- The numbers that round to a given one, in units of a quarter of the least spacing over
`2 ^ 1074`. -/
structure Interval where
  /-- The lower end. -/
  low : Nat
  /-- The upper end. -/
  high : Nat
  /-- The ends round to the number, too. -/
  closed : Bool

/-- The unit of an interval: `2 ^ 1076` of them make one. -/
def unit : Nat :=
  4 * Binary64.leastPerOne

/-- The numbers that round to the magnitude of `x`.  Below a magnitude where the spacing
doubles, the neighbour is only half as far. -/
def interval (x : Binary64) : Interval :=
  let step := Nat.pow 2 x.doublings
  let middle := 4 * (x.significand * step)
  let below := if x.significand = Binary64.stretch ∧ 0 < x.doublings then step else 2 * step
  ⟨middle - below, middle + 2 * step, x.place.val % 2 == 0⟩

/-- The quotient, in units, lies in the interval. -/
def Interval.contains (i : Interval) (r : Ratio) : Bool :=
  if i.closed then i.low * r.den ≤ r.num && r.num ≤ i.high * r.den
  else i.low * r.den < r.num && r.num < i.high * r.den

/-- `digits` on the grid of `10 ^ power`, in units. -/
def gridPoint (digits : Nat) (power : Int) : Ratio :=
  let factor := Nat.pow 10 power.natAbs
  if 0 ≤ power then ⟨digits * factor * unit, 1⟩ else ⟨digits * unit, factor⟩

/-- How many digits stand before the point of a positive quotient, when it is written out;
not positive when zeros follow the point. -/
def pointOf (r : Ratio) : Int :=
  if r.den ≤ r.num then (Text.ofNat (r.num / r.den)).length
  else 1 - ((Text.ofNat ((r.den + r.num - 1) / r.num - 1)).length : Int)

/-- The point of the grid of `10 ^ power` to write `x` as, when one rounds to it. -/
def onGrid (x : Binary64) (power : Int) : Option Nat :=
  let r := x.magnitude
  let factor := Nat.pow 10 power.natAbs
  let scaled : Ratio :=
    if 0 ≤ power then ⟨r.num, r.den * factor⟩ else ⟨r.num * factor, r.den⟩
  let lower := scaled.num / scaled.den
  let i := interval x
  match i.contains (gridPoint lower power), i.contains (gridPoint (lower + 1) power) with
  | true, true => some (Binary64.roundEven scaled.num scaled.den)
  | true, false => some lower
  | false, true => some (lower + 1)
  | false, false => none

/-- Tries grids of `count` digits and more, as many as `fuel` tells. -/
def search (x : Binary64) (point : Int) : Nat → Nat → Nat × Int
  | 0, _ => (0, 0)
  | fuel + 1, count =>
    let power := point - count
    match onGrid x power with
    | some digits => (digits, power)
    | none => search x point fuel (count + 1)

/-- Drops zeros at the end of the digits, as many as `fuel` tells. -/
def dropZeros : Nat → Nat → Int → Nat × Int
  | 0, digits, power => (digits, power)
  | fuel + 1, digits, power =>
    if digits % 10 = 0 ∧ digits ≠ 0 then dropZeros fuel (digits / 10) (power + 1)
    else (digits, power)

/-- The fewest digits that read back as the magnitude of `x`.  Seventeen always do. -/
def digits (x : Binary64) : Digits :=
  if x.isZero then ⟨0, 1⟩
  else
    let (found, power) := search x (pointOf x.magnitude) 17 1
    let (found, power) := dropZeros 17 found power
    ⟨found, (Text.ofNat found).length + power⟩

end VarlinkClient.Shortest
