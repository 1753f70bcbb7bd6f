/-
Configuration files.

A path leads to a file from the working directory or from the root, and `.` and `..` on the
way make no difference to which.  A configuration file is TOML; it may name another that it
extends, whose values count where it has none of its own.
-/
import VarlinkClient.Toml.Document
import VarlinkClient.Text.Utf8

namespace VarlinkClient

/-- The files there are, by path. -/
abbrev Files := List (Text × Bytes)

namespace Files

/-- Where a path leads to. -/
structure Place where
  /-- The way begins at the root, not in the working directory. -/
  fromRoot : Bool
  /-- The names on the way. -/
  names : List Text
  deriving DecidableEq, Repr

namespace Place

/-- Goes one name further; none when that leaves the working directory. -/
def enter (place : Place) (name : Text) : Option Place :=
  if name = [] ∨ name = "." then some place
  else if name = ".." then
    if place.names = [] ∧ !place.fromRoot then none
    else some { place with names := place.names.dropLast }
  else some { place with names := place.names ++ [name] }

/-- Where a path leads to; none for a path that cannot lead to a file. -/
def ofPath? (path : Text) : Option Place :=
  let names := Text.splitOn (· = '/') path
  if names.getLastD [] = [] then none
  else names.foldlM enter ⟨path.head? = some '/', []⟩

end Place

/-- The content of a file. -/
def content? (files : Files) (path : Text) : Option Bytes :=
  match Place.ofPath? path with
  | none => none
  | some place => (files.find? fun file => Place.ofPath? file.1 = some place).map Prod.snd

/-- The path of a file that is named in another, whose path is `path`. -/
def beside (path name : Text) : Text :=
  match Text.splitLast '/' path with
  | some (directory, _) => if name.head? = some '/' then name else directory ++ "/" ++ name
  | none => name

/-! ### Configurations in files -/

/-- The key under which a file names the one it extends. -/
def extendsKey : Text :=
  "extends"

/-- What is said of a file, and what is wrong with it. -/
def blame (path reason : Text) : Text :=
  path ++ ": " ++ reason

/-- The extensions of files that hold configurations in other formats. -/
def otherFormats : List Text :=
  ["json", "json5", "yaml", "yml"]

/-- The end of a file name after its last dot, in small letters. -/
def extension (path : Text) : Text :=
  let name := match Text.splitLast '/' path with
    | some (_, name) => name
    | none => path
  match Text.splitLast '.' name with
  | none | some ([], _) => []
  | some (_, extension) => Text.asciiLower extension

/-- Reads the content of one file. -/
def parse (path : Text) (content : Bytes) : Except Text Toml.Table :=
  if otherFormats.any fun format => format = extension path then
    .error (blame path "only TOML is read")
  else match (Utf8.decode? content).bind Toml.read with
    | some table => .ok table
    | none => .error (blame path "it is no TOML")

/-- The path of the file that a file extends, if it extends any. -/
def extended? (path : Text) (table : Toml.Table) : Except Text (Option Text) :=
  match table.get? extendsKey with
  | none => .ok none
  | some (.text (c :: name)) => .ok (some (beside path (c :: name)))
  | some _ => .error (blame path "what it extends is no path")

/-- Reads a file, and those it extends as far as `fuel` goes.  The tables come strongest first. -/
def readChain (files : Files) : Nat → Text → Except Text (List Toml.Table)
  | 0, path => .error (blame path "it extends itself")
  | fuel + 1, path =>
    match files.content? path with
    | none => .error (blame path "there is no such file")
    | some content =>
      match parse path content with
      | .error reason => .error reason
      | .ok table =>
        match extended? path table with
        | .error reason => .error reason
        | .ok none => .ok [table]
        | .ok (some next) => (readChain files fuel next).map (table :: ·)

/-- Reads a file and those it extends.  More steps than there are files go in a circle. -/
def read (files : Files) (path : Text) : Except Text (List Toml.Table) :=
  readChain files (files.length + 1) path

/-- The file in the working directory that is read when no other is named. -/
def usual : Text :=
  ".varlink.toml"

/-- Reads the first of several files that can be read; a file that is not there is passed over. -/
def readFirst (files : Files) : List Text → Except Text (List Toml.Table)
  | [] => .ok []
  | path :: paths =>
    match files.content? path with
    | none => readFirst files paths
    | some _ =>
      match files.read path with
      | .ok tables => .ok tables
      | .error reason =>
        match readFirst files paths with
        | .ok [] | .error _ => .error reason
        | .ok tables => .ok tables

end Files

end VarlinkClient
