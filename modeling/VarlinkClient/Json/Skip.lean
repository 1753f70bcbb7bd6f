/-
Passing over a JSON value.

A value that nobody asks for is passed over: its brackets and commas are checked, but
not how deep it is nested, whether its strings are UTF-8 or pair their surrogates, nor
whether its numbers are in range.
-/
import VarlinkClient.Json.Reader

namespace VarlinkClient.Json

/-! ### Numbers -/

/-- Passes over what follows the `e` of a number. -/
def skipExponent (bytes : Bytes) : Except Fault Bytes :=
  let bytes :=
    match bytes with
    | b :: rest => if b = byte '+' ∨ b = byte '-' then rest else bytes
    | [] => []
  match bytes with
  | [] => Fault.before .invalidNumber []
  | b :: rest =>
    if isDigit b then .ok (rest.dropWhile isDigit) else Fault.before .invalidNumber rest

/-- Passes over an exponent when there is one. -/
def skipTail (bytes : Bytes) : Except Fault Bytes :=
  match bytes with
  | b :: rest => if b = byte 'e' ∨ b = byte 'E' then skipExponent rest else .ok bytes
  | [] => .ok []

/-- Passes over what follows the digits before the point of a number. -/
def skipAfterWhole (bytes : Bytes) : Except Fault Bytes :=
  match bytes with
  | b :: rest =>
    if b = byte '.' then
      if startsWithDigit rest then skipTail (rest.dropWhile isDigit)
      else Fault.inFirst .invalidNumber rest
    else skipTail bytes
  | [] => .ok []

/-- Passes over a number after its sign. -/
def skipNumber (bytes : Bytes) : Except Fault Bytes :=
  match bytes with
  | [] => Fault.before .invalidNumber []
  | b :: rest =>
    if b = byte '0' then
      if startsWithDigit rest then Fault.inFirst .invalidNumber rest else skipAfterWhole rest
    else if isDigit b then skipAfterWhole (rest.dropWhile isDigit)
    else Fault.before .invalidNumber rest

/-! ### Strings -/

/-- Passes over what follows a backslash. -/
def skipEscape : Bytes → Except Fault Bytes
  | [] => Fault.before .endOfString []
  | b :: rest =>
    if (escaped? b).isSome then .ok rest
    else if b = byte 'u' then
      match readHex rest with
      | .ok (_, rest) => .ok rest
      | .error fault => .error fault
    else Fault.before .invalidEscape rest

/-- Passes over a string after its opening quote, in at most `fuel` stretches. -/
def skipStringWithin : Nat → Bytes → Except Fault Bytes
  | 0, _ => Fault.before .endOfString []
  | fuel + 1, bytes =>
    match bytes.dropWhile isPlain with
    | [] => Fault.before .endOfString []
    | b :: rest =>
      if b < 0x20 then Fault.before .controlCharacter (b :: rest)
      else if b = byte '"' then .ok rest
      else match skipEscape rest with
        | .ok rest => skipStringWithin fuel rest
        | .error fault => .error fault

/-- Passes over a string after its opening quote. -/
def skipString (bytes : Bytes) : Except Fault Bytes :=
  skipStringWithin (bytes.length + 1) bytes

/-! ### Containers -/

/-- Takes the key of a member and the colon after it. -/
def skipKey (bytes : Bytes) : Except Fault Bytes :=
  match skipSpace bytes with
  | [] => Fault.inFirst .endOfObject []
  | b :: rest =>
    if b = byte '"' then
      match skipString rest with
      | .ok rest => readColon rest
      | .error fault => .error fault
    else Fault.inFirst .keyNotString (b :: rest)

/-- Passes over the items of an array after the first, at most `fuel` of them. -/
def skipItems (skip : Bytes → Except Fault Bytes) : Nat → Bytes → Except Fault Bytes
  | 0, _ => Fault.before .endOfList []
  | fuel + 1, bytes =>
    match skipSpace bytes with
    | [] => Fault.inFirst .endOfList []
    | b :: rest =>
      if b = byte ']' then .ok rest
      else if b = byte ',' then
        match skip rest with
        | .ok rest => skipItems skip fuel rest
        | .error fault => .error fault
      else Fault.inFirst .expectedListCommaOrEnd (b :: rest)

/-- Passes over the members of an object after the first, at most `fuel` of them. -/
def skipMembers (skip : Bytes → Except Fault Bytes) : Nat → Bytes → Except Fault Bytes
  | 0, _ => Fault.before .endOfObject []
  | fuel + 1, bytes =>
    match skipSpace bytes with
    | [] => Fault.inFirst .endOfObject []
    | b :: rest =>
      if b = byte '\x7d' then .ok rest
      else if b = byte ',' then
        match skipKey rest with
        | .error fault => .error fault
        | .ok rest =>
          match skip rest with
          | .ok rest => skipMembers skip fuel rest
          | .error fault => .error fault
      else Fault.inFirst .expectedObjectCommaOrEnd (b :: rest)

/-- Passes over an array after its opening bracket. -/
def skipArray (skip : Bytes → Except Fault Bytes) (bytes : Bytes) : Except Fault Bytes :=
  match skipSpace bytes with
  | [] => Fault.inFirst .endOfList []
  | b :: rest =>
    if b = byte ']' then .ok rest
    else match skip (b :: rest) with
      | .ok rest => skipItems skip (rest.length + 1) rest
      | .error fault => .error fault

/-- Passes over an object after its opening brace. -/
def skipObject (skip : Bytes → Except Fault Bytes) (bytes : Bytes) : Except Fault Bytes :=
  match skipSpace bytes with
  | [] => Fault.inFirst .endOfObject []
  | b :: rest =>
    if b = byte '\x7d' then .ok rest
    else match skipKey (b :: rest) with
      | .error fault => .error fault
      | .ok rest =>
        match skip rest with
        | .ok rest => skipMembers skip (rest.length + 1) rest
        | .error fault => .error fault

/-- Passes over a value in which containers are nested at most `depth` deep. -/
def skipWithin (depth : Nat) (bytes : Bytes) : Except Fault Bytes :=
  match skipSpace bytes with
  | [] => Fault.inFirst .endOfValue []
  | b :: rest =>
    if b = byte 'n' then readRest "ull" rest
    else if b = byte 't' then readRest "rue" rest
    else if b = byte 'f' then readRest "alse" rest
    else if b = byte '-' then skipNumber rest
    else if isDigit b then skipNumber (b :: rest)
    else if b = byte '"' then skipString rest
    else if b = byte '[' then
      match depth with
      | 0 => Fault.inFirst .tooDeep (b :: rest)
      | inner + 1 => skipArray (skipWithin inner) rest
    else if b = byte '\x7b' then
      match depth with
      | 0 => Fault.inFirst .tooDeep (b :: rest)
      | inner + 1 => skipObject (skipWithin inner) rest
    else Fault.inFirst .expectedValue (b :: rest)

/-- Passes over a value.  It cannot be nested deeper than it has bytes. -/
def skipValue (bytes : Bytes) : Except Fault Bytes :=
  skipWithin bytes.length bytes

end VarlinkClient.Json
