/-
Whole numbers of 64 bits, in decimal.

A number is an optional `+` and one or more digits.  Digits are read from the left, so of
a digit that is none and a value that grows too large, the first to come is the fault.
-/
import VarlinkClient.Text.Basic

namespace VarlinkClient

/-- Why a text is no whole number of 64 bits. -/
inductive WholeError
  | empty
  | invalidDigit
  | tooLarge
  deriving DecidableEq, Repr

/-- The wording of an error. -/
def WholeError.message : WholeError → Text
  | empty => "cannot parse integer from empty string"
  | invalidDigit => "invalid digit found in string"
  | tooLarge => "number too large to fit in target type"

namespace Text

/-- Reads digits after others of value `n`. -/
def wholeFrom (n : Nat) : Text → Except WholeError Nat
  | [] => .ok n
  | c :: rest =>
    if !c.isDigit then .error .invalidDigit
    else if UInt64.size ≤ 10 * n + digitValue c then .error .tooLarge
    else wholeFrom (10 * n + digitValue c) rest

/-- Reads a whole number of 64 bits. -/
def whole : Text → Except WholeError Nat
  | [] => .error .empty
  | '+' :: [] => .error .invalidDigit
  | '+' :: digits => wholeFrom 0 digits
  | digits => wholeFrom 0 digits

end Text

end VarlinkClient
