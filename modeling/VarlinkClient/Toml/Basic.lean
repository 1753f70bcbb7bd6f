/-
TOML values and tables.

Of a value only texts and whole numbers are kept apart; what else there is, a
configuration has no use for.  A table remembers how it came about, because that decides
whether it may still grow: a table that a dotted key opened cannot get a header, one
that has a header cannot get a second, and a value is closed.
-/
import VarlinkClient.Text.Basic

namespace VarlinkClient.Toml

/-- A value. -/
inductive Value
  | text (t : Text)
  | whole (n : Int)
  /-- Any other number, a truth value, a date or time, an array or a table. -/
  | other
  deriving DecidableEq, Repr

/-- How a table came about. -/
inductive Origin
  /-- It is on the way to a table that has a header. -/
  | passed
  /-- It has a header. -/
  | headed
  /-- A dotted key leads through it. -/
  | dotted
  deriving DecidableEq, Repr

/-- What a key stands for. -/
inductive Node
  | value (v : Value)
  | table (origin : Origin) (members : List (Text × Node))
  /-- An array of tables with headers, of which only the last can grow. -/
  | tables (last : List (Text × Node))

/-- What stands in a table. -/
abbrev Table := List (Text × Node)

namespace Table

/-- Replaces what a key stands for; `f` is given what it stood for, if anything. -/
def change (key : Text) (f : Option Node → Option Node) : Table → Option Table
  | [] => (f none).map fun node => [(key, node)]
  | (k, node) :: rest =>
    if k = key then (f (some node)).map fun node => (k, node) :: rest
    else (change key f rest).map ((k, node) :: ·)

/-- Gives a dotted key a value that it did not have.  The table that gets the value has to be
the work of dotted keys alone; those before it may be on the way to a header as well. -/
def put : List Text → Value → Table → Option Table
  | [], _, _ => none
  | [key], v, table =>
    table.change key fun
      | none => some (.value v)
      | some _ => none
  | key :: path, v, table =>
    table.change key fun
      | none => (put path v []).map (.table .dotted)
      | some (.table .dotted members) => (put path v members).map (.table .dotted)
      | some (.table .passed members) =>
        if path.length < 2 then none else (put path v members).map (.table .passed)
      | some _ => none

/-- Changes the table at the end of a path of headers. -/
def within (f : Table → Option Table) : List Text → Table → Option Table
  | [], table => f table
  | key :: path, table =>
    table.change key fun
      | none => (within f path []).map (.table .passed)
      | some (.table origin members) => (within f path members).map (.table origin)
      | some (.tables last) => (within f path last).map .tables
      | some (.value _) => none

/-- Gives a table a header. -/
def head (key : Text) (table : Table) : Option Table :=
  table.change key fun
    | none => some (.table .headed [])
    | some (.table .passed members) => some (.table .headed members)
    | some _ => none

/-- Adds a table to an array of tables. -/
def headNext (key : Text) (table : Table) : Option Table :=
  table.change key fun
    | none | some (.tables _) => some (.tables [])
    | some _ => none

/-- The value of a key. -/
def get? (key : Text) (table : Table) : Option Value :=
  match table.find? fun entry => entry.1 = key with
  | some (_, .value v) => some v
  | some _ => some .other
  | none => none

end Table

end VarlinkClient.Toml
