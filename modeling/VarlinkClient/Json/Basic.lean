/-
JSON values.

A number is whole, from `-2 ^ 63` to `2 ^ 64 - 1`, or a real of 64 bits.  An object keeps
its members in the order in which their keys came first; a key that comes again replaces
the value and keeps the place.
-/
import VarlinkClient.Decimal.Binary64

namespace VarlinkClient.Json

/-- A JSON number. -/
inductive Number
  /-- A whole number that is not negative. -/
  | whole (n : UInt64)
  /-- The negative whole number `-(below + 1)`. -/
  | negative (below : Fin (UInt64.size / 2))
  /-- Any other number, rounded. -/
  | real (x : Binary64)
  deriving DecidableEq, Repr

/-- A JSON value. -/
inductive Value
  | null
  | bool (b : Bool)
  | number (n : Number)
  | string (t : Text)
  | array (items : List Value)
  | object (members : List (Text × Value))
  deriving Repr

/-- The members of an object, in order. -/
abbrev Members := List (Text × Value)

namespace Members

/-- Gives `key` the value `value`: in its place when it has one, else at the end. -/
def put (key : Text) (value : Value) : Members → Members
  | [] => [(key, value)]
  | (k, v) :: rest => if k = key then (key, value) :: rest else (k, v) :: put key value rest

/-- The members that a row of keys and values amounts to. -/
def ofPairs (pairs : List (Text × Value)) : Members :=
  pairs.foldl (fun members pair => put pair.1 pair.2 members) []

/-- The value of `key`. -/
def get? (key : Text) (members : Members) : Option Value :=
  (members.find? fun member => member.1 = key).map Prod.snd

end Members

namespace Value

/-- What kind of value it is, in words. -/
def kindName : Value → Text
  | null => "null"
  | bool _ => "a boolean"
  | number _ => "a number"
  | string _ => "a string"
  | array _ => "an array"
  | object _ => "an object"

/-- The text of a string. -/
def asText? : Value → Option Text
  | string t => some t
  | _ => none

end Value

end VarlinkClient.Json
