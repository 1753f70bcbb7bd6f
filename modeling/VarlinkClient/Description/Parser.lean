/-
Reading the description of an interface.

A description is read line by line.  A line whose first character is `#` is a comment;
outside of parentheses it documents the next declaration, inside it is left away.  A line
outside of parentheses has to start with a keyword and begins a declaration; inside, it
continues the last one.  The first declaration names the interface, the others are its
members.
-/
import VarlinkClient.Description.Basic
import VarlinkClient.Description.Signature

namespace VarlinkClient.Description

/-! ### Keywords -/

/-- The word a declaration starts with. -/
inductive Keyword
  | interface
  | member (kind : MemberKind)
  deriving DecidableEq, Repr

/-- How a keyword is written. -/
def Keyword.text : Keyword → Text
  | interface => "interface"
  | member kind => kind.keyword

/-- The keywords there are. -/
def Keyword.all : List Keyword :=
  [.interface, .member .type, .member .method, .member .error]

/-- The first word of a text. -/
def firstWord (t : Text) : Text :=
  (Text.trimLeft t).takeWhile fun c => !isBlank c

/-- The keyword a text starts with. -/
def keyword? (t : Text) : Option Keyword :=
  Keyword.all.find? fun keyword => keyword.text = firstWord t

/-! ### From lines to declarations -/

/-- A declaration: its lines, joined by blanks, and what documents it. -/
structure Declaration where
  doc : List Text
  text : Text
  deriving DecidableEq, Repr

/-- How far the lines have been read. -/
structure Scan where
  /-- The declarations so far. -/
  declarations : List Declaration
  /-- The comments since the last of them began. -/
  doc : List Text
  /-- How many parentheses are open. -/
  depth : Nat
  deriving DecidableEq, Repr

/-- Nothing read yet. -/
def Scan.start : Scan :=
  ⟨[], [], 0⟩

/-- What a comment says: what follows the `#`, less one blank. -/
def commentText (rest : Text) : Text :=
  (Text.stripStart [' '] rest).getD rest

/-- Adds a line to the last declaration. -/
def continueLast (line : Text) : List Declaration → List Declaration
  | [] => []
  | [declaration] => [{ declaration with text := declaration.text ++ ' ' :: line }]
  | declaration :: rest => declaration :: continueLast line rest

/-- Puts a line that is neither blank nor a comment into the declarations. -/
def Scan.place (scan : Scan) (line : Text) : Except DescriptionError Scan :=
  if scan.depth = 0 then
    if (keyword? line).isSome then
      .ok { scan with declarations := scan.declarations ++ [⟨scan.doc, line⟩], doc := [] }
    else .error (.strayText line)
  else .ok { scan with declarations := continueLast line scan.declarations }

/-- Reads one line, which has been trimmed. -/
def Scan.readLine (scan : Scan) (line : Text) : Except DescriptionError Scan :=
  match line with
  | [] => .ok scan
  | '#' :: comment =>
    if scan.depth = 0 then .ok { scan with doc := scan.doc ++ [commentText comment] }
    else .ok scan
  | _ =>
    match scan.place line with
    | .error error => .error error
    | .ok placed =>
      match Signature.depthAfter scan.depth line with
      | some depth => .ok { placed with depth }
      | none => .error (.unbalanced line)

/-- Reads lines. -/
def Scan.readLines (scan : Scan) : List Text → Except DescriptionError Scan
  | [] => .ok scan
  | line :: lines =>
    match scan.readLine (Text.trim line) with
    | .ok scan => scan.readLines lines
    | .error error => .error error

/-- The declarations of a description. -/
def declarations (t : Text) : Except DescriptionError (List Declaration) :=
  match Scan.start.readLines (Text.lines t) with
  | .error error => .error error
  | .ok scan =>
    if scan.depth ≠ 0 then
      .error (.unbalanced ((scan.declarations.getLast?.map Declaration.text).getD []))
    else if scan.declarations.tail.any fun d => keyword? d.text = some .interface then
      .error .duplicateInterface
    else .ok scan.declarations

/-! ### From declarations to a description -/

/-- The character may stand in the name of a member. -/
def isNameChar (c : Char) : Bool :=
  c.isAlphanum || c == '_'

/-- Reads the declaration of a member. -/
def readMember (declaration : Declaration) : Except DescriptionError Member :=
  match keyword? declaration.text with
  | some (.member kind) =>
    let rest := Text.trimLeft (declaration.text.drop kind.keyword.length)
    match rest.takeWhile isNameChar with
    | [] => .error (.missingName declaration.text)
    | name =>
      .ok ⟨declaration.doc, kind, name, Signature.normalise (rest.dropWhile isNameChar)⟩
  | _ => .error (.strayText declaration.text)

/-- Reads the declarations of members. -/
def readMembers : List Declaration → Except DescriptionError (List Member)
  | [] => .ok []
  | declaration :: rest =>
    match readMember declaration with
    | .error error => .error error
    | .ok member =>
      match readMembers rest with
      | .error error => .error error
      | .ok members => .ok (member :: members)

/-- The name in the declaration of an interface. -/
def interfaceName? (declaration : Text) : Option Text :=
  match Text.stripStart "interface" declaration with
  | none => none
  | some rest => if Text.trim rest = [] then none else some (Text.trim rest)

/-- Reads a description. -/
def parse (t : Text) : Except DescriptionError Description :=
  match declarations t with
  | .error error => .error error
  | .ok [] => .error .missingInterface
  | .ok (first :: rest) =>
    match interfaceName? first.text with
    | none => .error .missingInterface
    | some name =>
      match readMembers rest with
      | .error error => .error error
      | .ok members => .ok ⟨first.doc, name, members⟩

end VarlinkClient.Description
