/-
The text of a JSON value.

Strings escape quotes, backslashes and the control characters below U+0020, nothing
else.  A real number is written with the fewest digits that read back, as
`Shortest.digits` finds them: positionally from `0.00001` up to sixteen digits before the
point, else with an exponent, and always with a point or an exponent, so that it is not
taken for a whole number.
-/
import VarlinkClient.Decimal.Shortest
import VarlinkClient.Json.Basic

namespace VarlinkClient.Json

/-! ### Numbers -/

/-- The digits of a real number with a point among or beside them. -/
def positional (digits : Text) (point : Int) : Text :=
  if point ≤ 0 then "0." ++ List.replicate point.natAbs '0' ++ digits
  else
    let whole := point.natAbs
    if digits.length ≤ whole then digits ++ List.replicate (whole - digits.length) '0' ++ ".0"
    else digits.take whole ++ "." ++ digits.drop whole

/-- The digits of a real number with an exponent. -/
def scientific (digits : Text) (point : Int) : Text :=
  let mantissa :=
    match digits with
    | first :: d :: rest => first :: '.' :: d :: rest
    | _ => digits
  let exponent := point - 1
  mantissa ++ (if exponent < 0 then "e-" else "e+") ++ Text.ofNat exponent.natAbs

/-- The text of a real number. -/
def realText (x : Binary64) : Text :=
  let shortest := Shortest.digits x
  let digits := Text.ofNat shortest.digits
  let magnitude :=
    if -4 ≤ shortest.point ∧ shortest.point ≤ 16 then positional digits shortest.point
    else scientific digits shortest.point
  if x.negative then '-' :: magnitude else magnitude

/-- The text of a number. -/
def Number.text : Number → Text
  | whole n => Text.ofNat n.toNat
  | negative below => '-' :: Text.ofNat (below.val + 1)
  | real x => realText x

/-! ### Strings -/

/-- A hexadecimal digit in lower case. -/
def hexDigit (n : Nat) : Char :=
  Nat.digitChar (n % 16)

/-- A character as it stands in a string. -/
def escape (c : Char) : Text :=
  if c = '"' then ['\\', '"']
  else if c = '\\' then ['\\', '\\']
  else if c = '\x08' then ['\\', 'b']
  else if c = '\x0c' then ['\\', 'f']
  else if c = '\n' then ['\\', 'n']
  else if c = '\r' then ['\\', 'r']
  else if c = '\t' then ['\\', 't']
  else if c.toNat < 0x20 then ['\\', 'u', '0', '0', hexDigit (c.toNat / 16), hexDigit c.toNat]
  else [c]

/-- A text as a JSON string. -/
def quote (t : Text) : Text :=
  '"' :: t.flatMap escape ++ ['"']

/-! ### Values -/

mutual

/-- The text of a value, without blanks. -/
def Value.text : Value → Text
  | .null => "null"
  | .bool true => "true"
  | .bool false => "false"
  | .number n => n.text
  | .string t => quote t
  | .array items => '[' :: itemsText items ++ [']']
  | .object members => '\x7b' :: membersText members ++ ['\x7d']

/-- The texts of the items of an array, separated by commas. -/
def itemsText : List Value → Text
  | [] => []
  | [item] => item.text
  | item :: items => item.text ++ ',' :: itemsText items

/-- The texts of the members of an object, separated by commas. -/
def membersText : List (Text × Value) → Text
  | [] => []
  | [(key, value)] => quote key ++ ':' :: value.text
  | (key, value) :: members => quote key ++ ':' :: value.text ++ ',' :: membersText members

end

end VarlinkClient.Json
