/-
TOML numbers, dates and times.

They are told apart by their characters: a word that is neither a text nor begins with a
bracket has to be one of them, or `true` or `false`.  Only whole numbers have a value
here; of the rest it only matters that they are well formed.
-/
import VarlinkClient.Toml.Basic

namespace VarlinkClient.Toml

/-- A character that numbers, dates and truth values are made of. -/
def isWordChar (c : Char) : Bool :=
  c.isAlphanum || c = '+' || c = '-' || c = '.' || c = '_' || c = ':'

/-! ### Numbers -/

/-- Takes the underscores out of digits.  Each has to stand between two digits. -/
def digits? (isDigit : Char → Bool) (t : Text) : Option Text :=
  let groups := Text.splitOn (· = '_') t
  if groups.all fun group => group ≠ [] ∧ group.all isDigit then some groups.flatten else none

/-- Decimal digits without a zero in front. -/
def decimal? (t : Text) : Option Nat :=
  match digits? Char.isDigit t with
  | some ['0'] => some 0
  | some ('0' :: _) | none => none
  | some digits => some (Text.natOfDigits digits)

/-- A digit of a number to the base `base`. -/
def isDigitOf (base : Nat) (c : Char) : Bool :=
  (Text.hexValue? c).any fun n => n < base

/-- The number that digits stand for, to a base. -/
def based? (base : Nat) (t : Text) : Option Int :=
  (digits? (isDigitOf base) t).map fun digits =>
    digits.foldl (fun (n : Int) c => base * n + (Text.hexValue? c).getD 0) 0

/-- A number without its sign, and whether it had `-` in front. -/
def unsigned : Text → Bool × Text
  | '-' :: t => (true, t)
  | '+' :: t => (false, t)
  | t => (false, t)

/-- A whole number, however large. -/
def integer? : Text → Option Int
  | '0' :: 'x' :: t => based? 16 t
  | '0' :: 'o' :: t => based? 8 t
  | '0' :: 'b' :: t => based? 2 t
  | t =>
    let (negative, t) := unsigned t
    (decimal? t).map fun n => if negative then -(n : Int) else n

/-- The exponent of a number, after its `e`. -/
def isExponent (t : Text) : Bool :=
  (digits? Char.isDigit (unsigned t).2).isSome

/-- A number with a fraction, an exponent or both, or one that is no number at all. -/
def isReal (t : Text) : Bool :=
  let t := (unsigned t).2
  if t = "inf" ∨ t = "nan" then true
  else
    let isE (c : Char) := c = 'e' || c = 'E'
    let mantissa := t.takeWhile fun c => !isE c
    let exponent := (t.dropWhile fun c => !isE c).tail?
    let exponentFits := exponent.all isExponent
    match Text.splitFirst '.' mantissa with
    | some (before, after) =>
      (decimal? before).isSome && (digits? Char.isDigit after).isSome && exponentFits
    | none => (decimal? mantissa).isSome && exponent.isSome && exponentFits

/-! ### Dates and times -/

/-- Two digits of a value from `low` to `high`. -/
def isTwoDigits (low high : Nat) (t : Text) : Bool :=
  t.length = 2 && (Text.digits? t).any fun n => low ≤ n && n ≤ high

/-- How many days a month has. -/
def daysIn (year month : Nat) : Nat :=
  if month = 2 then
    if year % 4 = 0 ∧ (year % 100 ≠ 0 ∨ year % 400 = 0) then 29 else 28
  else if month = 4 ∨ month = 6 ∨ month = 9 ∨ month = 11 then 30
  else 31

/-- A date. -/
def isDate (t : Text) : Bool :=
  match Text.splitOn (· = '-') t with
  | [year, month, day] =>
    year.length = 4 && (Text.digits? year).isSome && isTwoDigits 1 12 month &&
      isTwoDigits 1 (daysIn (Text.natOfDigits year) (Text.natOfDigits month)) day
  | _ => false

/-- A time of day. -/
def isTime (t : Text) : Bool :=
  match Text.splitOn (· = ':') t with
  | [hour, minute, second] =>
    isTwoDigits 0 23 hour && isTwoDigits 0 59 minute &&
      (match Text.splitFirst '.' second with
        | some (whole, fraction) => isTwoDigits 0 60 whole && (Text.digits? fraction).isSome
        | none => isTwoDigits 0 60 second)
  | _ => false

/-- A distance from universal time, after its sign. -/
def isOffset (t : Text) : Bool :=
  match Text.splitOn (· = ':') t with
  | [hour, minute] => isTwoDigits 0 23 hour && isTwoDigits 0 59 minute
  | _ => false

/-- A time of day that may tell its distance from universal time. -/
def isZonedTime (t : Text) : Bool :=
  let isSign (c : Char) := c = '+' || c = '-'
  if t.getLast? = some 'Z' ∨ t.getLast? = some 'z' then isTime t.dropLast
  else match t.dropWhile fun c => !isSign c with
    | _ :: offset => isTime (t.takeWhile fun c => !isSign c) && isOffset offset
    | [] => isTime t

/-- A date, a time, or a date and a time with a `T` between them. -/
def isMoment (t : Text) : Bool :=
  match t.drop 10 with
  | c :: time => (c = 'T' || c = 't') && isDate (t.take 10) && isZonedTime time || isTime t
  | [] => isDate t || isTime t

/-! ### Words -/

/-- A whole number that fits into 64 bits, sign included. -/
def isInRange (n : Int) : Bool :=
  Int64.minValue.toInt ≤ n && n ≤ Int64.maxValue.toInt

/-- The value that a word stands for. -/
def valueOfWord? (t : Text) : Option Value :=
  match integer? t with
  | some n => if isInRange n then some (.whole n) else none
  | none => if t = "true" ∨ t = "false" ∨ isReal t ∨ isMoment t then some .other else none

/-- The time that follows a date after a single blank. -/
def timeAfterBlank? (t : Text) : Option Text :=
  match t with
  | ' ' :: rest =>
    let time := rest.takeWhile isWordChar
    if isZonedTime time then some time else none
  | _ => none

/-- Reads a word. -/
def readWord (t : Text) : Option (Value × Text) :=
  let word := t.takeWhile isWordChar
  let rest := t.dropWhile isWordChar
  match isDate word, timeAfterBlank? rest with
  | true, some time => some (.other, rest.drop (time.length + 1))
  | _, _ => (valueOfWord? word).map fun v => (v, rest)

end VarlinkClient.Toml
