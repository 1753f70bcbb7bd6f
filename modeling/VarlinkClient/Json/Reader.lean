/-
Reading JSON.

The reader goes over bytes and takes them from the front.  Containers may be nested 127
deep: `readValue depth` is by recursion on how much deeper it may go, and inside one
container the items or members are read one after another, as many as there are bytes.

A number is read digit by digit.  Digits that do not fit in 64 bits are counted and
left away, so a real number is rounded from at most twenty digits and a power of ten.
-/
import VarlinkClient.Json.Basic
import VarlinkClient.Json.Fault
import VarlinkClient.Text.Utf8

namespace VarlinkClient.Json

/-- The byte of an ASCII character. -/
def byte (c : Char) : UInt8 :=
  UInt8.ofNat c.toNat

/-- The byte is a space, a line feed, a carriage return or a tab. -/
def isSpace (b : UInt8) : Bool :=
  b == 0x20 || b == 0x0A || b == 0x0D || b == 0x09

/-- The bytes without the blanks in front. -/
def skipSpace (bytes : Bytes) : Bytes :=
  bytes.dropWhile isSpace

/-- The byte is a decimal digit. -/
def isDigit (b : UInt8) : Bool :=
  0x30 ≤ b && b ≤ 0x39

/-- The value of a decimal digit. -/
def digitValue (b : UInt8) : Nat :=
  b.toNat - 0x30

/-- The next byte is a decimal digit. -/
def startsWithDigit : Bytes → Bool
  | [] => false
  | b :: _ => isDigit b

/-! ### Identifiers -/

/-- Takes the rest of an identifier. -/
def readRest : Text → Bytes → Except Fault Bytes
  | [], bytes => .ok bytes
  | _ :: _, [] => Fault.before .endOfValue []
  | c :: letters, b :: bytes =>
    if b = byte c then readRest letters bytes else Fault.before .expectedIdentifier bytes

/-- Takes the rest of an identifier that stands for `value`. -/
def readWord {α : Type} (value : α) (letters : Text) (bytes : Bytes) : Reading α :=
  match readRest letters bytes with
  | .ok rest => .ok (value, rest)
  | .error fault => .error fault

/-! ### Numbers -/

/-- The greatest number of 64 bits. -/
def maxWhole : Nat :=
  UInt64.size - 1

/-- Takes digits after those of `value` as long as the number has 64 bits; also counts them. -/
def takeDigits (value count : Nat) : Bytes → Nat × Nat × Bytes
  | [] => (value, count, [])
  | b :: bytes =>
    if isDigit b ∧ 10 * value + digitValue b ≤ maxWhole then
      takeDigits (10 * value + digitValue b) (count + 1) bytes
    else (value, count, b :: bytes)

/-- The greatest exponent that is read as a number. -/
def maxExponent : Nat :=
  UInt32.size / 2 - 1

/-- Takes the digits of an exponent after those of `value`.  On failure, when the exponent
gets too great, the bytes after the digit that made it so. -/
def takeExponent (value : Nat) : Bytes → Except Bytes (Nat × Bytes)
  | [] => .ok (value, [])
  | b :: bytes =>
    if isDigit b then
      if 10 * value + digitValue b ≤ maxExponent then
        takeExponent (10 * value + digitValue b) bytes
      else .error bytes
    else .ok (value, b :: bytes)

/-- Gives a real number its sign. -/
def signed (negative : Bool) (x : Binary64) : Number :=
  .real (if negative then x.neg else x)

/-- The real number of these digits and this exponent. -/
def finishReal (negative : Bool) (digits : Nat) (exponent : Int) (rest : Bytes) :
    Reading Number :=
  match Binary64.ofDecimal? digits exponent with
  | some x => .ok (signed negative x, rest)
  | none => Fault.before .numberOutOfRange rest

/-- The whole number of these digits; a negative one that is too great, or zero, is real. -/
def finishWhole (negative : Bool) (digits : Nat) (rest : Bytes) : Reading Number :=
  if negative then
    if h : 0 < digits ∧ digits ≤ UInt64.size / 2 then .ok (.negative ⟨digits - 1, by omega⟩, rest)
    else finishReal true digits 0 rest
  else .ok (.whole (UInt64.ofNat digits), rest)

/-- Reads what follows the `e` of a number. -/
def readExponent (negative : Bool) (digits : Nat) (exponent : Int) (bytes : Bytes) :
    Reading Number :=
  let (below, bytes) :=
    match bytes with
    | b :: rest =>
      if b = byte '+' then (false, rest) else if b = byte '-' then (true, rest)
      else (false, bytes)
    | [] => (false, [])
  match bytes with
  | [] => Fault.before .endOfValue []
  | b :: rest =>
    if isDigit b then
      match takeExponent (digitValue b) rest with
      | .ok (n, rest) =>
        finishReal negative digits (if below then exponent - n else exponent + n) rest
      | .error rest =>
        if digits ≠ 0 ∧ ¬ below then Fault.before .numberOutOfRange rest
        else .ok (signed negative .zero, rest.dropWhile isDigit)
    else Fault.before .invalidNumber rest

/-- Reads an exponent when there is one. -/
def readTail (negative : Bool) (digits : Nat) (exponent : Int) (bytes : Bytes) : Reading Number :=
  match bytes with
  | b :: rest =>
    if b = byte 'e' ∨ b = byte 'E' then readExponent negative digits exponent rest
    else finishReal negative digits exponent bytes
  | [] => finishReal negative digits exponent []

/-- Reads what follows the point of a number. -/
def readFraction (negative : Bool) (digits : Nat) (exponent : Int) (bytes : Bytes) :
    Reading Number :=
  let (digits, count, rest) := takeDigits digits 0 bytes
  if startsWithDigit rest then readTail negative digits (exponent - count) (rest.dropWhile isDigit)
  else if count = 0 then
    Fault.inFirst (if rest = [] then .endOfValue else .invalidNumber) rest
  else readTail negative digits (exponent - count) rest

/-- Reads what follows the digits before the point of a number. -/
def readAfterWhole (negative : Bool) (digits : Nat) (bytes : Bytes) : Reading Number :=
  match bytes with
  | b :: rest =>
    if b = byte '.' then readFraction negative digits 0 rest
    else if b = byte 'e' ∨ b = byte 'E' then readExponent negative digits 0 rest
    else finishWhole negative digits bytes
  | [] => finishWhole negative digits []

/-- Reads the digits of a number that do not fit in 64 bits, and what follows. -/
def readLong (negative : Bool) (digits : Nat) (bytes : Bytes) : Reading Number :=
  let exponent := (bytes.takeWhile isDigit).length
  match bytes.dropWhile isDigit with
  | b :: rest =>
    if b = byte '.' then readFraction negative digits exponent rest
    else readTail negative digits exponent (b :: rest)
  | [] => finishReal negative digits exponent []

/-- Reads a number after its sign. -/
def readNumber (negative : Bool) (bytes : Bytes) : Reading Number :=
  match bytes with
  | [] => Fault.before .endOfValue []
  | b :: rest =>
    if b = byte '0' then
      if startsWithDigit rest then Fault.inFirst .invalidNumber rest
      else readAfterWhole negative 0 rest
    else if isDigit b then
      let (digits, _, rest) := takeDigits (digitValue b) 0 rest
      if startsWithDigit rest then readLong negative digits rest
      else readAfterWhole negative digits rest
    else Fault.before .invalidNumber rest

/-! ### Strings -/

/-- The value of a hexadecimal digit of either case. -/
def hexValue? (b : UInt8) : Option Nat :=
  Text.hexValue? (Char.ofNat b.toNat)

/-- Reads the four digits of a `\u` escape. -/
def readHex : Bytes → Reading Nat
  | a :: b :: c :: d :: rest =>
    match hexValue? a, hexValue? b, hexValue? c, hexValue? d with
    | some a, some b, some c, some d => .ok (((a * 16 + b) * 16 + c) * 16 + d, rest)
    | _, _, _, _ => Fault.before .invalidEscape rest
  | _ => Fault.before .endOfString []

/-- Takes one byte of the escape of a trailing surrogate. -/
def expectInEscape (c : Char) : Bytes → Except Fault Bytes
  | [] => Fault.before .endOfString []
  | b :: rest => if b = byte c then .ok rest else Fault.before .unexpectedEndOfEscape rest

/-- Reads what follows `\u`.  A leading surrogate has to be followed by the escape of a
trailing one. -/
def readUnicodeEscape (bytes : Bytes) : Reading Char :=
  match readHex bytes with
  | .error fault => .error fault
  | .ok (n, rest) =>
    if 0xDC00 ≤ n ∧ n ≤ 0xDFFF then Fault.before .loneSurrogate rest
    else if n < 0xD800 ∨ 0xDBFF < n then .ok (Char.ofNat n, rest)
    else match expectInEscape '\\' rest with
      | .error fault => .error fault
      | .ok rest =>
        match expectInEscape 'u' rest with
        | .error fault => .error fault
        | .ok rest =>
          match readHex rest with
          | .error fault => .error fault
          | .ok (m, rest) =>
            if m < 0xDC00 ∨ 0xDFFF < m then Fault.before .loneSurrogate rest
            else .ok (Char.ofNat (0x10000 + (n - 0xD800) * 0x400 + (m - 0xDC00)), rest)

/-- What the letter after a backslash stands for. -/
def escaped? (b : UInt8) : Option Char :=
  if b = byte '"' then some '"'
  else if b = byte '\\' then some '\\'
  else if b = byte '/' then some '/'
  else if b = byte 'b' then some '\x08'
  else if b = byte 'f' then some '\x0c'
  else if b = byte 'n' then some '\n'
  else if b = byte 'r' then some '\r'
  else if b = byte 't' then some '\t'
  else none

/-- Reads what follows a backslash. -/
def readEscape : Bytes → Reading Char
  | [] => Fault.before .endOfString []
  | b :: rest =>
    match escaped? b with
    | some c => .ok (c, rest)
    | none => if b = byte 'u' then readUnicodeEscape rest else Fault.before .invalidEscape rest

/-- The byte stands for itself in a string. -/
def isPlain (b : UInt8) : Bool :=
  b != byte '"' && b != byte '\\' && 0x20 ≤ b

/-- Reads a string after its opening quote, in at most `fuel` stretches between escapes. -/
def readStringWithin : Nat → Bytes → Reading Text
  | 0, _ => Fault.before .endOfString []
  | fuel + 1, bytes =>
    match bytes.dropWhile isPlain with
    | [] => Fault.before .endOfString []
    | b :: rest =>
      if b < 0x20 then Fault.before .controlCharacter rest
      else match Utf8.read (bytes.takeWhile isPlain) with
        | .error fitting => Fault.inFirst .invalidCodePoint (bytes.drop fitting)
        | .ok stretch =>
          if b = byte '"' then .ok (stretch, rest)
          else match readEscape rest with
            | .error fault => .error fault
            | .ok (c, rest) =>
              match readStringWithin fuel rest with
              | .error fault => .error fault
              | .ok (t, rest) => .ok (stretch ++ c :: t, rest)

/-- Reads a string after its opening quote. -/
def readString (bytes : Bytes) : Reading Text :=
  readStringWithin (bytes.length + 1) bytes

/-! ### Containers -/

/-- Whether something more stands in a container. -/
inductive Next
  /-- Something more, of which these are the bytes. -/
  | more (bytes : Bytes)
  /-- The container has ended, and these bytes follow it. -/
  | done (rest : Bytes)

/-- Looks for the next item of an array; `first` tells that none came before. -/
def nextItem (first : Bool) (bytes : Bytes) : Except Fault Next :=
  match skipSpace bytes with
  | [] => Fault.inFirst .endOfList []
  | b :: rest =>
    if b = byte ']' then .ok (.done rest)
    else if first then .ok (.more (b :: rest))
    else if b = byte ',' then
      match skipSpace rest with
      | [] => Fault.inFirst .endOfValue []
      | c :: rest =>
        if c = byte ']' then Fault.inFirst .trailingComma (c :: rest) else .ok (.more (c :: rest))
    else Fault.inFirst .expectedListCommaOrEnd (b :: rest)

/-- Looks for the next member of an object, and takes the quote that opens its key. -/
def nextMember (first : Bool) (bytes : Bytes) : Except Fault Next :=
  match skipSpace bytes with
  | [] => Fault.inFirst .endOfObject []
  | b :: rest =>
    if b = byte '\x7d' then .ok (.done rest)
    else if first then
      if b = byte '"' then .ok (.more rest) else Fault.inFirst .keyNotString (b :: rest)
    else if b = byte ',' then
      match skipSpace rest with
      | [] => Fault.inFirst .endOfValue []
      | c :: rest =>
        if c = byte '"' then .ok (.more rest)
        else if c = byte '\x7d' then Fault.inFirst .trailingComma (c :: rest)
        else Fault.inFirst .keyNotString (c :: rest)
    else Fault.inFirst .expectedObjectCommaOrEnd (b :: rest)

/-- Takes the colon between a key and its value. -/
def readColon (bytes : Bytes) : Except Fault Bytes :=
  match skipSpace bytes with
  | [] => Fault.inFirst .endOfObject []
  | b :: rest => if b = byte ':' then .ok rest else Fault.inFirst .expectedColon (b :: rest)

/-- Reads the items of an array, at most `fuel` of them. -/
def readItems (read : Bytes → Reading Value) : Nat → Bool → Bytes → Reading (List Value)
  | 0, _, _ => Fault.before .endOfList []
  | fuel + 1, first, bytes =>
    match nextItem first bytes with
    | .error fault => .error fault
    | .ok (.done rest) => .ok ([], rest)
    | .ok (.more bytes) =>
      match read bytes with
      | .error fault => .error fault
      | .ok (item, rest) =>
        match readItems read fuel false rest with
        | .error fault => .error fault
        | .ok (items, rest) => .ok (item :: items, rest)

/-- Reads the members of an object, at most `fuel` of them. -/
def readMembers (read : Bytes → Reading Value) :
    Nat → Bool → Bytes → Reading (List (Text × Value))
  | 0, _, _ => Fault.before .endOfObject []
  | fuel + 1, first, bytes =>
    match nextMember first bytes with
    | .error fault => .error fault
    | .ok (.done rest) => .ok ([], rest)
    | .ok (.more bytes) =>
      match readString bytes with
      | .error fault => .error fault
      | .ok (key, rest) =>
        match readColon rest with
        | .error fault => .error fault
        | .ok rest =>
          match read rest with
          | .error fault => .error fault
          | .ok (value, rest) =>
            match readMembers read fuel false rest with
            | .error fault => .error fault
            | .ok (members, rest) => .ok ((key, value) :: members, rest)

/-! ### Values and documents -/

/-- How deep containers may be nested. -/
def maxDepth : Nat :=
  127

/-- Wraps what a reader has read. -/
def wrap {α β : Type} (f : α → β) : Reading α → Reading β
  | .ok (a, rest) => .ok (f a, rest)
  | .error fault => .error fault

/-- Reads a value in which containers are nested at most `depth` deep. -/
def readValue (depth : Nat) (bytes : Bytes) : Reading Value :=
  match skipSpace bytes with
  | [] => Fault.inFirst .endOfValue []
  | b :: rest =>
    if b = byte 'n' then readWord .null "ull" rest
    else if b = byte 't' then readWord (.bool true) "rue" rest
    else if b = byte 'f' then readWord (.bool false) "alse" rest
    else if b = byte '-' then wrap .number (readNumber true rest)
    else if isDigit b then wrap .number (readNumber false (b :: rest))
    else if b = byte '"' then wrap .string (readString rest)
    else if b = byte '[' then
      match depth with
      | 0 => Fault.inFirst .tooDeep (b :: rest)
      | inner + 1 => wrap .array (readItems (readValue inner) (rest.length + 1) true rest)
    else if b = byte '\x7b' then
      match depth with
      | 0 => Fault.inFirst .tooDeep (b :: rest)
      | inner + 1 =>
        wrap (fun pairs => .object (Members.ofPairs pairs))
          (readMembers (readValue inner) (rest.length + 1) true rest)
    else Fault.inFirst .expectedValue (b :: rest)

/-- Takes the end of a document: blanks and nothing else. -/
def readEnd (bytes : Bytes) : Except Fault Unit :=
  match skipSpace bytes with
  | [] => .ok ()
  | b :: rest => Fault.inFirst .trailingCharacters (b :: rest)

/-- Reads a document of one value. -/
def read (bytes : Bytes) : Except Fault Value :=
  match readValue maxDepth bytes with
  | .error fault => .error fault
  | .ok (value, rest) =>
    match readEnd rest with
    | .ok () => .ok value
    | .error fault => .error fault

/-- Reads a text of one value; a fault comes with its wording. -/
def parse (t : Text) : Except Text Value :=
  let bytes := Utf8.encode t
  match read bytes with
  | .ok value => .ok value
  | .error fault => .error (fault.message bytes)

end VarlinkClient.Json
