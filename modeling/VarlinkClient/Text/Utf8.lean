/-
UTF-8.

A character is one to four bytes; the first byte tells how many follow and which range
the second may lie in, so that every character has one spelling and no surrogate has
any.  `decode?` reads a whole byte sequence or refuses it, `decodeLossy` reads any
sequence: where no character can be read, the bytes that could still have begun one
become a single U+FFFD.
-/
import VarlinkClient.Text.Basic

namespace VarlinkClient.Utf8

/-! ### Writing -/

/-- The bytes of one character. -/
def encodeChar (c : Char) : Bytes :=
  let n := c.toNat
  if n < 0x80 then [UInt8.ofNat n]
  else if n < 0x800 then [UInt8.ofNat (0xC0 + n / 0x40), UInt8.ofNat (0x80 + n % 0x40)]
  else if n < 0x10000 then
    [UInt8.ofNat (0xE0 + n / 0x1000), UInt8.ofNat (0x80 + n / 0x40 % 0x40),
      UInt8.ofNat (0x80 + n % 0x40)]
  else
    [UInt8.ofNat (0xF0 + n / 0x40000), UInt8.ofNat (0x80 + n / 0x1000 % 0x40),
      UInt8.ofNat (0x80 + n / 0x40 % 0x40), UInt8.ofNat (0x80 + n % 0x40)]

/-- The bytes of a text. -/
def encode (t : Text) : Bytes :=
  t.flatMap encodeChar

@[simp] theorem encode_append (t u : Text) : encode (t ++ u) = encode t ++ encode u :=
  List.flatMap_append

/-! ### Reading -/

/-- What the first byte of a character says of the bytes after it. -/
structure Lead where
  /-- How many bytes follow. -/
  tails : Nat
  /-- The first byte's share of the character's number. -/
  head : Nat
  /-- The least second byte. -/
  low : Nat
  /-- The greatest second byte. -/
  high : Nat

/-- The first byte of a character; none for a byte that can only follow, or never stands. -/
def lead? (b : UInt8) : Option Lead :=
  let n := b.toNat
  if n < 0x80 then some ⟨0, n, 0x80, 0xBF⟩
  else if n < 0xC2 then none
  else if n < 0xE0 then some ⟨1, n - 0xC0, 0x80, 0xBF⟩
  else if n = 0xE0 then some ⟨2, 0, 0xA0, 0xBF⟩
  else if n = 0xED then some ⟨2, 0xD, 0x80, 0x9F⟩
  else if n < 0xF0 then some ⟨2, n - 0xE0, 0x80, 0xBF⟩
  else if n = 0xF0 then some ⟨3, 0, 0x90, 0xBF⟩
  else if n < 0xF4 then some ⟨3, n - 0xF0, 0x80, 0xBF⟩
  else if n = 0xF4 then some ⟨3, 4, 0x80, 0x8F⟩
  else none

/-- Reads `count` following bytes into `value`.  The next one lies between `low` and `high`,
those after it anywhere from 80 to BF.  On failure, the number of bytes that fitted. -/
def readTails : Nat → Nat → Nat → Nat → Nat → Bytes → Except Nat (Nat × Bytes)
  | 0, _, _, _, value, bytes => .ok (value, bytes)
  | _ + 1, _, _, fitted, _, [] => .error fitted
  | count + 1, low, high, fitted, value, b :: rest =>
    if low ≤ b.toNat ∧ b.toNat ≤ high then
      readTails count 0x80 0xBF (fitted + 1) (value * 0x40 + (b.toNat - 0x80)) rest
    else .error fitted

/-- Reads one character.  On failure, how many of the bytes cannot be part of any other
character: the first, and those after it that fitted. -/
def readChar (first : UInt8) (rest : Bytes) : Except Nat (Char × Bytes) :=
  match lead? first with
  | none => .error 1
  | some lead =>
    match readTails lead.tails lead.low lead.high 1 lead.head rest with
    | .ok (value, rest) => .ok (Char.ofNat value, rest)
    | .error fitted => .error fitted

/-- Reads at most `fuel` characters.  On failure, how many bytes there are from the first
character that cannot be read to the end. -/
def readWithin : Nat → Bytes → Except Nat Text
  | _, [] => .ok []
  | 0, bytes => .error bytes.length
  | fuel + 1, b :: bytes =>
    match readChar b bytes with
    | .error _ => .error (bytes.length + 1)
    | .ok (c, rest) =>
      match readWithin fuel rest with
      | .ok t => .ok (c :: t)
      | .error left => .error left

/-- Reads a text.  On failure, how many bytes stand before the first that cannot be read. -/
def read (bytes : Bytes) : Except Nat Text :=
  match readWithin bytes.length bytes with
  | .ok t => .ok t
  | .error left => .error (bytes.length - left)

/-- The text whose bytes these are, when there is one. -/
def decode? (bytes : Bytes) : Option Text :=
  match read bytes with
  | .ok t => some t
  | .error _ => none

/-- Reads at most `fuel` characters, with U+FFFD for what cannot be read. -/
def decodeLossyWithin : Nat → Bytes → Text
  | _, [] => []
  | 0, _ :: _ => []
  | fuel + 1, b :: bytes =>
    match readChar b bytes with
    | .ok (c, rest) => c :: decodeLossyWithin fuel rest
    | .error spoiled => '\uFFFD' :: decodeLossyWithin fuel (bytes.drop (spoiled - 1))

/-- The text of these bytes, with U+FFFD for what cannot be read. -/
def decodeLossy (bytes : Bytes) : Text :=
  decodeLossyWithin bytes.length bytes

end VarlinkClient.Utf8
