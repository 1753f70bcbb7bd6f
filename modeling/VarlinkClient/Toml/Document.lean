/-
TOML documents.

A document is a row of lines: a key with its value, the header of a table, or nothing;
each may end in a comment.  Headers say in which table the keys after them stand.  A
document in which a key gets two values, or a table two headers, is no TOML.
-/
import VarlinkClient.Toml.Number
import VarlinkClient.Toml.Quoted

namespace VarlinkClient.Toml

/-! ### Between the values -/

/-- Drops a comment, if one begins here. -/
def dropComment? : Text → Option Text
  | '#' :: rest =>
    let comment := rest.takeWhile fun c => c ≠ '\n'
    let body := (Text.stripEnd ['\r'] comment).getD comment
    if body.any isControl then none else some (rest.dropWhile fun c => c ≠ '\n')
  | t => some t

/-- Takes the rest of a line that holds nothing more, and the end of the line. -/
def endLine (t : Text) : Option Text :=
  match dropComment? (t.dropWhile isBlank) with
  | none => none
  | some [] => some []
  | some rest => takeLineEnd? rest

/-- Drops blanks, line ends and comments. -/
def dropFiller : Nat → Text → Option Text
  | 0, t => some t
  | fuel + 1, t =>
    match dropComment? (t.dropWhile isBlank) with
    | none => none
    | some rest =>
      match takeLineEnd? rest with
      | some rest => dropFiller fuel rest
      | none => some rest

/-! ### Keys -/

/-- A character that may stand in a key without quotes. -/
def isKeyChar (c : Char) : Bool :=
  c.isAlphanum || c = '_' || c = '-'

/-- Reads one part of a key. -/
def readKeyPart (t : Text) : Option (Text × Text) :=
  match t with
  | '"' :: rest => readLine '"' rest.length rest
  | '\'' :: rest => readLine '\'' rest.length rest
  | t =>
    match t.takeWhile isKeyChar with
    | [] => none
    | part => some (part, t.dropWhile isKeyChar)

/-- Reads a key of at most `fuel` parts, and the blanks around it. -/
def readKey : Nat → Text → Option (List Text × Text)
  | 0, _ => none
  | fuel + 1, t =>
    match readKeyPart (t.dropWhile isBlank) with
    | none => none
    | some (part, rest) =>
      match rest.dropWhile isBlank with
      | '.' :: rest => (readKey fuel rest).map fun (parts, rest) => (part :: parts, rest)
      | rest => some ([part], rest)

/-! ### Values -/

/-- Reads the items of an array after its bracket, at most `fuel` of them. -/
def readItems (read : Text → Option (Value × Text)) : Nat → Text → Option Text
  | 0, _ => none
  | fuel + 1, t =>
    match dropFiller t.length t with
    | none => none
    | some (']' :: rest) => some rest
    | some t =>
      match read t with
      | none => none
      | some (_, rest) =>
        match dropFiller rest.length rest with
        | some (',' :: rest) => readItems read fuel rest
        | some (']' :: rest) => some rest
        | _ => none

/-- Reads a key, an equals sign and a value. -/
def readPair (read : Text → Option (Value × Text)) (t : Text) : Option (List Text × Value × Text) :=
  match readKey t.length t with
  | some (key, '=' :: rest) =>
    (read (rest.dropWhile isBlank)).map fun (v, rest) => (key, v, rest)
  | _ => none

/-- Reads the members of a table in braces, at most `fuel` of them, into `table`. -/
def readMembers (read : Text → Option (Value × Text)) : Nat → Table → Text → Option Text
  | 0, _, _ => none
  | fuel + 1, table, t =>
    match readPair read t with
    | none => none
    | some (key, v, rest) =>
      match table.put key v with
      | none => none
      | some table =>
        match rest.dropWhile isBlank with
        | ',' :: rest => readMembers read fuel table rest
        | '\x7d' :: rest => some rest
        | _ => none

/-- Reads a value in which arrays and tables are nested at most `depth` deep. -/
def readValue : Nat → Text → Option (Value × Text)
  | depth, t =>
    match t with
    | '"' :: rest => (readQuoted '"' rest).map fun (t, rest) => (.text t, rest)
    | '\'' :: rest => (readQuoted '\'' rest).map fun (t, rest) => (.text t, rest)
    | '[' :: rest =>
      match depth with
      | 0 => none
      | inner + 1 => (readItems (readValue inner) t.length rest).map fun rest => (.other, rest)
    | '\x7b' :: rest =>
      match depth with
      | 0 => none
      | inner + 1 =>
        match rest.dropWhile isBlank with
        | '\x7d' :: rest => some (.other, rest)
        | _ => (readMembers (readValue inner) t.length [] rest).map fun rest => (.other, rest)
    | t => readWord t

/-- How deep arrays and tables may be nested. -/
def maxDepth : Nat :=
  79

/-! ### Lines -/

/-- Reads the header of a table after its bracket, and opens the table.  Gives the path to it. -/
def readHeader (root : Table) (t : Text) : Option (List Text × Table × Text) :=
  match readKey t.length t with
  | some (path, ']' :: rest) =>
    match path.getLast? with
    | some key =>
      (root.within (Table.head key) path.dropLast).map fun root => (path, root, rest)
    | none => none
  | _ => none

/-- The same after two brackets, for the next table of an array. -/
def readNextHeader (root : Table) (t : Text) : Option (List Text × Table × Text) :=
  match readKey t.length t with
  | some (path, ']' :: ']' :: rest) =>
    match path.getLast? with
    | some key =>
      (root.within (Table.headNext key) path.dropLast).map fun root => (path, root, rest)
    | none => none
  | _ => none

/-- Reads a line that is not empty.  Keys stand in the table at the end of `path`. -/
def readContent (path : List Text) (root : Table) (t : Text) :
    Option (List Text × Table × Text) :=
  match t with
  | '[' :: '[' :: rest => readNextHeader root rest
  | '[' :: rest => readHeader root rest
  | t =>
    match readPair (readValue maxDepth) t with
    | none => none
    | some (key, v, rest) =>
      (root.within (Table.put key v) path).map fun root => (path, root, rest)

/-- Reads at most `fuel` lines. -/
def readAll : Nat → List Text → Table → Text → Option Table
  | _, _, root, [] => some root
  | 0, _, _, _ :: _ => none
  | fuel + 1, path, root, t =>
    match endLine t with
    | some rest => readAll fuel path root rest
    | none =>
      match readContent path root (t.dropWhile isBlank) with
      | none => none
      | some (path, root, rest) =>
        match endLine rest with
        | some rest => readAll fuel path root rest
        | none => none

/-- Reads a document.  A byte order mark in front is not part of it. -/
def read (t : Text) : Option Table :=
  let t := (Text.stripStart ['\uFEFF'] t).getD t
  readAll (t.length + 1) [] [] t

end VarlinkClient.Toml
