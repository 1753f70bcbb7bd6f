/-
What the environment says about the configuration.

A variable `VARLINK_X` gives a value to `x`; letters of either case do.  Its value is text,
but what looks like a number, a truth value, a quoted text, a list or a table is one, and
is not taken for a text where a text belongs.
-/
import VarlinkClient.Text.Blank
import VarlinkClient.Toml.Basic
import VarlinkClient.Toml.Quoted

namespace VarlinkClient

/-- The variables that are set, with their values. -/
abbrev Environment := List (Text × Text)

namespace Environment

open Toml (Value)

/-! ### Values -/

/-- A blank between values. -/
def isSpace (c : Char) : Bool :=
  c = ' ' || c = '\t' || c = '\n' || c = '\r' || c = '\x0c'

/-- A character that ends a bare value. -/
def isSeparator (c : Char) : Bool :=
  c = ',' || c = '[' || c = ']' || c = '\x7b' || c = '\x7d'

/-- A number with a point, and perhaps an exponent. -/
def isReal (t : Text) : Bool :=
  let unsigned : Text → Text
    | '+' :: t | '-' :: t => t
    | t => t
  let isE (c : Char) := c = 'e' || c = 'E'
  let t := unsigned t
  match Text.splitFirst '.' (t.takeWhile fun c => !isE c) with
  | none => false
  | some (before, after) =>
    (before ++ after) ≠ [] && (before ++ after).all Char.isDigit &&
      match t.dropWhile fun c => !isE c with
      | [] => true
      | _ :: exponent => (Text.digits? (unsigned exponent)).isSome

/-- A whole number that fits into 64 bits, with a sign or without. -/
def whole? (t : Text) : Option Int :=
  match t with
  | '-' :: digits =>
    (Text.digits? digits).bind fun n => if n ≤ UInt64.size / 2 then some (-(n : Int)) else none
  | t => (Text.natural? t).bind fun n => if n < UInt64.size then some (n : Int) else none

/-- The value of bare text. -/
def bare (t : Text) : Value :=
  let t := Text.trim t
  if isReal t then .other
  else match whole? t with
    | some n => .whole n
    | none => .text t

/-- Drops the blanks in front of what was read. -/
def dropSpace {α : Type} (reading : Option (α × Text)) : Option (α × Text) :=
  reading.map fun (a, rest) => (a, rest.dropWhile isSpace)

/-- Takes one character. -/
def eat? (c : Char) : Text → Option Text
  | d :: rest => if d = c then some rest else none
  | [] => none

/-- Reads items up to the character `finish`, at most `fuel` of them.  A comma stands between two
and may stand after the last. -/
def readItems (readItem : Text → Option Text) (finish : Char) : Nat → Text → Option Text
  | 0, _ => none
  | fuel + 1, t =>
    match eat? finish t with
    | some rest => some rest
    | none =>
      match readItem t with
      | none => none
      | some rest =>
        match eat? ',' rest with
        | some rest => readItems readItem finish fuel rest
        | none => eat? finish rest

/-- Reads a key and the blanks around it. -/
def readKey (t : Text) : Option Text :=
  let isKeyChar (c : Char) := c.isAlphanum || c = '_' || c = '-'
  let t := t.dropWhile isSpace
  let rest :=
    match t with
    | '"' :: rest => (Toml.readLine '"' rest.length rest).map Prod.snd
    | t => if t.head?.any isKeyChar then some (t.dropWhile isKeyChar) else none
  rest.map fun rest => rest.dropWhile isSpace

/-- Reads a value and the blanks around it.  Values are nested at most `fuel` deep. -/
def readValue : Nat → Text → Option (Value × Text)
  | 0, _ => none
  | fuel + 1, t =>
    let read (t : Text) : Option Text := (readValue fuel t).map Prod.snd
    let t := t.dropWhile isSpace
    dropSpace <|
      match Text.stripStart "true" t, Text.stripStart "false" t, t with
      | some rest, _, _ | none, some rest, _ => some (.other, rest)
      | none, none, '[' :: rest =>
        (readItems read ']' (rest.length + 1) rest).map fun rest => (.other, rest)
      | none, none, '\x7b' :: rest =>
        let readPair (t : Text) := ((readKey t).bind (eat? '=')).bind read
        (readItems readPair '\x7d' (rest.length + 1) rest).map fun rest => (.other, rest)
      | none, none, '"' :: rest =>
        (Toml.readLine '"' rest.length rest).map fun (t, rest) => (.text t, rest)
      | none, none, '\'' :: c :: '\'' :: rest => some (.text [c], rest)
      | none, none, '\'' :: _ => none
      | none, none, t =>
        some (bare (t.takeWhile fun c => !isSeparator c), t.dropWhile fun c => !isSeparator c)

/-- A value that is not looked into for commas. -/
def isStructured (t : Text) : Bool :=
  t.head?.any fun c => c = '[' || c = '\x7b' || c = '"' || c = '\''

/-- The value of a variable.  What cannot be read as anything else is text. -/
def value (t : Text) : Value :=
  let t := Text.trim t
  if ',' ∈ t ∧ !isStructured t then .other
  else match readValue (t.length + 1) t with
    | some (v, []) => v
    | _ => .text t

/-! ### Variables -/

/-- The key a variable speaks about: its name without the front, in small letters.  Two
underscores lead into a table. -/
def key? (name : Text) : Option (Text × Bool) :=
  (Text.stripStart "varlink_" (Text.asciiLower name)).map fun t => (outer t, isNested t)
where
  /-- What stands before two underscores. -/
  outer : Text → Text
    | '_' :: '_' :: _ => []
    | c :: rest => c :: outer rest
    | [] => []
  /-- Two underscores stand somewhere. -/
  isNested : Text → Bool
    | '_' :: '_' :: _ => true
    | _ :: rest => isNested rest
    | [] => false

/-- What the environment says about keys. -/
def values (environment : Environment) : List (Text × Value) :=
  environment.filterMap fun (name, t) =>
    (key? name).map fun (key, nested) => (key, if nested then .other else value t)

end Environment

end VarlinkClient
