/-
Quoted TOML text.

Between double quotes a backslash begins an escape; between single quotes it stands for
itself.  Three quotes begin a text that may span lines; a line end directly after them is
not part of it, and a backslash at the end of a line swallows the blanks that follow.
-/
import VarlinkClient.Text.Basic

namespace VarlinkClient.Toml

/-- A character that may not stand in a text or a comment: a control character other than the
tab. -/
def isControl (c : Char) : Bool :=
  c < ' ' && c ≠ '\t' || c = '\x7f'

/-- A blank within a line. -/
def isBlank (c : Char) : Bool :=
  c = ' ' || c = '\t'

/-- Takes the end of a line. -/
def takeLineEnd? : Text → Option Text
  | '\n' :: rest | '\r' :: '\n' :: rest => some rest
  | _ => none

/-- The character that hexadecimal digits stand for, unless it is a surrogate or beyond the
last one. -/
def charOfHex? (digits : Text) : Option Char :=
  let append (n : Option Nat) (c : Char) : Option Nat :=
    n.bind fun n => (Text.hexValue? c).map (16 * n + ·)
  match digits.foldl append (some 0) with
  | some n => if n.isValidChar then some (Char.ofNat n) else none
  | none => none

/-- Reads `count` hexadecimal digits. -/
def readHex (count : Nat) (t : Text) : Option (Char × Text) :=
  if t.length < count then none
  else (charOfHex? (t.take count)).map fun c => (c, t.drop count)

/-- Reads an escape after its backslash. -/
def readEscape : Text → Option (Char × Text)
  | 'b' :: rest => some ('\x08', rest)
  | 't' :: rest => some ('\t', rest)
  | 'n' :: rest => some ('\n', rest)
  | 'f' :: rest => some ('\x0c', rest)
  | 'r' :: rest => some ('\r', rest)
  | '"' :: rest => some ('"', rest)
  | '\\' :: rest => some ('\\', rest)
  | 'u' :: rest => readHex 4 rest
  | 'U' :: rest => readHex 8 rest
  | _ => none

/-- What follows a backslash at the end of a line, when it stands there: the blanks and line
ends are gone. -/
def afterContinuation? (t : Text) : Option Text :=
  match takeLineEnd? (t.dropWhile isBlank) with
  | some rest => some (rest.dropWhile fun c => isBlank c || c = '\n' || c = '\r')
  | none => none

/-- Puts a character in front of a text that was read. -/
def consChar (c : Char) (reading : Option (Text × Text)) : Option (Text × Text) :=
  reading.map fun (t, rest) => (c :: t, rest)

/-- Reads a text on one line, after its first quote. -/
def readLine (mark : Char) : Nat → Text → Option (Text × Text)
  | 0, _ | _, [] => none
  | fuel + 1, c :: rest =>
    if c = mark then some ([], rest)
    else if c = '\\' ∧ mark = '"' then
      match readEscape rest with
      | some (c, rest) => consChar c (readLine mark fuel rest)
      | none => none
    else if isControl c then none
    else consChar c (readLine mark fuel rest)

/-- Reads a text that may span lines, after its three quotes.  One or two quotes more at its
end belong to it. -/
def readLines (mark : Char) : Nat → Text → Option (Text × Text)
  | 0, _ | _, [] => none
  | fuel + 1, c :: rest =>
    if c = mark then
      let more := (rest.takeWhile (· = mark)).length
      if more < 2 then consChar c (readLines mark fuel rest)
      else if more ≤ 4 then some (List.replicate (more - 2) mark, rest.drop more)
      else none
    else if c = '\\' ∧ mark = '"' then
      match afterContinuation? rest with
      | some rest => readLines mark fuel rest
      | none =>
        match readEscape rest with
        | some (c, rest) => consChar c (readLines mark fuel rest)
        | none => none
    else
      match takeLineEnd? (c :: rest) with
      | some rest => consChar '\n' (readLines mark fuel rest)
      | none => if isControl c then none else consChar c (readLines mark fuel rest)

/-- Reads a text after its first quote, on one line or several. -/
def readQuoted (mark : Char) (t : Text) : Option (Text × Text) :=
  match t with
  | a :: b :: rest =>
    if a = mark ∧ b = mark then readLines mark (rest.length + 1) ((takeLineEnd? rest).getD rest)
    else readLine mark t.length t
  | _ => readLine mark t.length t

end VarlinkClient.Toml
