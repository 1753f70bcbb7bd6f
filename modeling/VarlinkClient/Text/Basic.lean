/-
Texts as lists of characters.

Every rule of this library that reads or writes text is about characters in order,
so a text is the list of them: recursion on it is recursion on the data, and what a
split gives back can be stated with `++`.  A `String` literal stands for its
characters wherever a text is expected.
-/

namespace VarlinkClient

/-- A text is its characters, in order. -/
abbrev Text := List Char

/-- Bytes in order, as they travel over a connection or stand in a file. -/
abbrev Bytes := List UInt8

instance : Coe String Text := ⟨String.toList⟩

/-- The characters of a text are tried, not all characters that there are. -/
instance (p : Char → Prop) [DecidablePred p] (t : Text) : Decidable (∀ c ∈ t, p c) :=
  List.decidableBAll p t

namespace Text

/-! ### Cutting at a character -/

/-- What stands before and after the first `mark`, when there is one. -/
def splitFirst (mark : Char) : Text → Option (Text × Text)
  | [] => none
  | c :: rest =>
    if c = mark then some ([], rest)
    else match splitFirst mark rest with
      | some (before, after) => some (c :: before, after)
      | none => none

/-- What stands before and after the last `mark`, when there is one. -/
def splitLast (mark : Char) : Text → Option (Text × Text)
  | [] => none
  | c :: rest =>
    match splitLast mark rest with
    | some (before, after) => some (c :: before, after)
    | none => if c = mark then some ([], rest) else none

/-- The characters before the first `mark`; the whole text when there is none. -/
def upTo (mark : Char) (t : Text) : Text :=
  t.takeWhile (· ≠ mark)

/-- The pieces between the characters that `isMark` accepts: one more than there are marks. -/
def splitOn (isMark : Char → Bool) : Text → List Text
  | [] => [[]]
  | c :: rest =>
    if isMark c then [] :: splitOn isMark rest
    else match splitOn isMark rest with
      | piece :: pieces => (c :: piece) :: pieces
      | [] => [[c]]

/-- What is left of `t` after `start`, when `t` begins with it. -/
def stripStart (start t : Text) : Option Text :=
  start.isPrefixOf? t

/-- What is left of `t` before `finish`, when `t` ends with it. -/
def stripEnd (finish t : Text) : Option Text :=
  finish.isSuffixOf? t

/-- The text without the characters at its end that `drop` accepts. -/
def trimEnd (drop : Char → Bool) (t : Text) : Text :=
  (t.reverse.dropWhile drop).reverse

/-- The text without the characters at either end that `drop` accepts. -/
def trimBoth (drop : Char → Bool) (t : Text) : Text :=
  trimEnd drop (t.dropWhile drop)

/-- The lines of a text: each ends at a line feed, which is not part of it, nor is one
carriage return directly before that line feed.  A last line without a line feed counts
only when it has a character. -/
def lines (t : Text) : List Text :=
  let pieces := splitOn (· = '\n') t
  let ended := pieces.dropLast.map fun line => (stripEnd ['\r'] line).getD line
  match pieces.getLast? with
  | some [] | none => ended
  | some last => ended ++ [last]

/-! ### Putting together -/

/-- The pieces one after another, with `between` where two meet. -/
def join (between : Text) : List Text → Text
  | [] => []
  | [piece] => piece
  | piece :: pieces => piece ++ between ++ join between pieces

/-- The text in single quotes. -/
def inQuotes (t : Text) : Text :=
  "'" ++ t ++ "'"

/-- The text, and blanks after it up to `width` characters. -/
def padEnd (width : Nat) (t : Text) : Text :=
  t ++ List.replicate (width - t.length) ' '

/-! ### Numbers and letters of ASCII -/

/-- A natural number in decimal digits. -/
def ofNat (n : Nat) : Text :=
  Nat.toDigits 10 n

/-- The value of a decimal digit. -/
def digitValue (c : Char) : Nat :=
  c.toNat - '0'.toNat

/-- The number that a row of decimal digits stands for. -/
def natOfDigits (digits : Text) : Nat :=
  digits.foldl (fun n c => 10 * n + digitValue c) 0

/-- A row of one or more decimal digits, as a number. -/
def digits? (t : Text) : Option Nat :=
  if t ≠ [] ∧ t.all Char.isDigit then some (natOfDigits t) else none

/-- A natural number written as an optional `+` and one or more decimal digits. -/
def natural? : Text → Option Nat
  | '+' :: digits => digits? digits
  | digits => digits? digits

/-- The value of a hexadecimal digit of either case. -/
def hexValue? (c : Char) : Option Nat :=
  if c.isDigit then some (c.toNat - '0'.toNat)
  else if 'a' ≤ c ∧ c ≤ 'f' then some (c.toNat - 'a'.toNat + 10)
  else if 'A' ≤ c ∧ c ≤ 'F' then some (c.toNat - 'A'.toNat + 10)
  else none

/-- The text with the letters `A` to `Z` in lower case. -/
def asciiLower (t : Text) : Text :=
  t.map Char.toLower

end Text

end VarlinkClient
