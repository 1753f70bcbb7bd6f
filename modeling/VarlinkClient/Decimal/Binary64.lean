/-
Finite binary floating-point numbers of 64 bits.

The magnitudes of these numbers, in increasing order, are counted from zero: that count
is all there is to a magnitude, and the next greater number has the next count.  A
quotient of natural numbers is rounded by finding the place where it falls, ties going
to the even count.  Products and quotients of two numbers are rounded exact ones.
-/
import VarlinkClient.Text.Basic

namespace VarlinkClient

/-- How many magnitudes in a row are spaced alike. -/
abbrev Binary64.stretch : Nat :=
  Nat.pow 2 52

/-- A finite number of 64 bits: a sign, and the place of its magnitude among all of them. -/
structure Binary64 where
  /-- The number has a minus sign, which zero can have too. -/
  negative : Bool
  /-- How many magnitudes are smaller. -/
  place : Fin (2047 * Binary64.stretch)
  deriving DecidableEq, Repr

namespace Binary64

/-- A quotient of natural numbers; the denominator is never zero. -/
structure Ratio where
  num : Nat
  den : Nat
  deriving DecidableEq, Repr

/-- Zero. -/
def zero : Binary64 :=
  ⟨false, 0⟩

/-- The number with the opposite sign. -/
def neg (x : Binary64) : Binary64 :=
  { x with negative := !x.negative }

/-- The magnitude is zero. -/
def isZero (x : Binary64) : Bool :=
  x.place.val == 0

/-! ### The magnitude as a product

The lowest places are spaced `2 ^ -1074` apart.  After two stretches, and after every one
from there on, the spacing doubles.
-/

/-- How many of the least spacing make one. -/
def leastPerOne : Nat :=
  Nat.pow 2 1074

/-- How many times the spacing below the number has doubled. -/
def doublings (x : Binary64) : Nat :=
  x.place.val / stretch - 1

/-- The magnitude counted in units of the spacing at the number. -/
def significand (x : Binary64) : Nat :=
  x.place.val - x.doublings * stretch

/-- The magnitude. -/
def magnitude (x : Binary64) : Ratio :=
  ⟨x.significand * Nat.pow 2 x.doublings, leastPerOne⟩

/-! ### Rounding -/

/-- The whole number nearest to a quotient; of two equally near, the even one. -/
def roundEven (num den : Nat) : Nat :=
  let quotient := num / den
  let twice := 2 * (num % den)
  if twice < den then quotient
  else if den < twice then quotient + 1
  else quotient + quotient % 2

/-- How often the spacing has doubled at a quotient that is not zero. -/
def doublingsOf (r : Ratio) : Nat :=
  let estimate := r.num.log2 + 1074 - r.den.log2 - 53
  if r.num * leastPerOne / (r.den * Nat.pow 2 estimate) < 2 * stretch then estimate
  else estimate + 1

/-- The place nearest to a quotient; it may lie beyond all numbers. -/
def placeOf (r : Ratio) : Nat :=
  if r.num = 0 then 0
  else
    let doublings := doublingsOf r
    doublings * stretch + roundEven (r.num * leastPerOne) (r.den * Nat.pow 2 doublings)

/-- The number nearest to a quotient, unless that is infinite. -/
def ofRatio? (r : Ratio) : Option Binary64 :=
  if h : placeOf r < 2047 * stretch then some ⟨false, ⟨placeOf r, h⟩⟩ else none

/-- The number nearest to a natural number. -/
def ofNat? (n : Nat) : Option Binary64 :=
  ofRatio? ⟨n, 1⟩

/-- The product of two magnitudes, rounded. -/
def mul? (x y : Binary64) : Option Binary64 :=
  let a := x.magnitude
  let b := y.magnitude
  ofRatio? ⟨a.num * b.num, a.den * b.den⟩

/-- The quotient of two magnitudes, rounded; the second is not zero. -/
def div? (x y : Binary64) : Option Binary64 :=
  let a := x.magnitude
  let b := y.magnitude
  ofRatio? ⟨a.num * b.den, a.den * b.num⟩

/-! ### Decimal notation

A number in decimal notation is given by its digits as a natural number and a power of
ten.  It is rounded in steps: the digits first, then the power of ten, then their
product or quotient.  A power below `10 ^ -308` is divided out `10 ^ 308` at a time.
-/

/-- `10 ^ power`, rounded. -/
def powerOfTen? (power : Nat) : Option Binary64 :=
  ofNat? (Nat.pow 10 power)

/-- A number divided by `10 ^ power`, at most `10 ^ 308` in a step and in at most `fuel` steps. -/
def divPowerOfTen? : Nat → Binary64 → Nat → Option Binary64
  | 0, x, _ => some x
  | fuel + 1, x, power =>
    if power ≤ 308 then
      match powerOfTen? power with
      | some divisor => div? x divisor
      | none => none
    else if x.isZero then some x
    else match powerOfTen? 308 with
      | some divisor =>
        match div? x divisor with
        | some quotient => divPowerOfTen? fuel quotient (power - 308)
        | none => none
      | none => none

/-- The number `digits * 10 ^ exponent`, unless it is out of range. -/
def ofDecimal? (digits : Nat) (exponent : Int) : Option Binary64 :=
  match ofNat? digits with
  | none => none
  | some x =>
    if exponent < 0 then divPowerOfTen? exponent.natAbs x exponent.natAbs
    else if exponent ≤ 308 then
      match powerOfTen? exponent.natAbs with
      | some factor => mul? x factor
      | none => none
    else if x.isZero then some x
    else none

end Binary64

end VarlinkClient
