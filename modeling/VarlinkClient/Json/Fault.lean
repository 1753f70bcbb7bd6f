/-
Why a text is no JSON, and where.

A reader works on the bytes that are left.  A fault records its cause and how many bytes
were left when it was found; given the whole input, that is a line and a column.
-/
import VarlinkClient.Text.Basic

namespace VarlinkClient.Json

/-- Why a text is no JSON, or not the JSON that was expected. -/
inductive Cause
  | endOfList
  | endOfObject
  | endOfString
  | endOfValue
  | expectedColon
  | expectedListCommaOrEnd
  | expectedObjectCommaOrEnd
  | expectedValue
  | expectedIdentifier
  | invalidEscape
  | invalidNumber
  | numberOutOfRange
  | invalidCodePoint
  | controlCharacter
  | keyNotString
  | loneSurrogate
  | trailingComma
  | trailingCharacters
  | unexpectedEndOfEscape
  | tooDeep
  /-- One kind of value was found where another belongs. -/
  | mistyped (found expected : Text)
  /-- A field that may come once comes again. -/
  | duplicateField (name : Text)
  deriving DecidableEq, Repr

/-- The wording of a cause. -/
def Cause.text : Cause → Text
  | endOfList => "EOF while parsing a list"
  | endOfObject => "EOF while parsing an object"
  | endOfString => "EOF while parsing a string"
  | endOfValue => "EOF while parsing a value"
  | expectedColon => "expected `:`"
  | expectedListCommaOrEnd => "expected `,` or `]`"
  | expectedObjectCommaOrEnd => "expected `,` or `\x7d`"
  | expectedValue => "expected value"
  | expectedIdentifier => "expected ident"
  | invalidEscape => "invalid escape"
  | invalidNumber => "invalid number"
  | numberOutOfRange => "number out of range"
  | invalidCodePoint => "invalid unicode code point"
  | controlCharacter => "control character (\\u0000-\\u001F) found while parsing a string"
  | keyNotString => "key must be a string"
  | loneSurrogate => "lone leading surrogate in hex escape"
  | trailingComma => "trailing comma"
  | trailingCharacters => "trailing characters"
  | unexpectedEndOfEscape => "unexpected end of hex escape"
  | tooDeep => "recursion limit exceeded"
  | mistyped found expected => "invalid type: " ++ found ++ ", expected " ++ expected
  | duplicateField name => "duplicate field `" ++ name ++ "`"

/-- A cause, and where it was found. -/
structure Fault where
  /-- What is wrong. -/
  cause : Cause
  /-- How many bytes had not been read. -/
  unread : Nat
  deriving DecidableEq, Repr

/-- What a reader makes of the bytes that are left: a result and the bytes after it. -/
abbrev Reading (α : Type) := Except Fault (α × Bytes)

namespace Fault

/-- A fault found just before `rest`. -/
def before {α : Type} (cause : Cause) (rest : Bytes) : Except Fault α :=
  .error ⟨cause, rest.length⟩

/-- A fault in the first byte of `rest`, or at the end when there is none. -/
def inFirst {α : Type} (cause : Cause) (rest : Bytes) : Except Fault α :=
  .error ⟨cause, rest.length - 1⟩

/-! ### Where a fault is -/

/-- The bytes after the last line feed. -/
def lastLine (bytes : Bytes) : Bytes :=
  (bytes.reverse.takeWhile (· ≠ 0x0A)).reverse

/-- The line of a position, from 1, in an input of which `bytes` stand before it. -/
def line (bytes : Bytes) : Nat :=
  1 + bytes.count 0x0A

/-- The wording of a fault in `input`, with its line and column. -/
def message (input : Bytes) (fault : Fault) : Text :=
  let bytes := input.take (input.length - fault.unread)
  fault.cause.text ++ " at line " ++ Text.ofNat (line bytes) ++ " column " ++
    Text.ofNat (lastLine bytes).length

end Fault

end VarlinkClient.Json
