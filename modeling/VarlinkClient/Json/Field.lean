/-
Reading values of an expected kind.

Where a text or a truth value is expected and something else stands, the fault names
what was found.  A scalar is read before it is complained about, a container is not, so
the position of the fault tells the two apart.
-/
import VarlinkClient.Json.Printer
import VarlinkClient.Json.Reader
import VarlinkClient.Text.Quoted

namespace VarlinkClient.Json

/-- A number as a fault names it. -/
def Number.described : Number → Text
  | .real x => "floating point `" ++ realText x ++ "`"
  | n => "integer `" ++ n.text ++ "`"

/-- The fault that something read by `found` stands where `expected` belongs. -/
def complain {α : Type} (expected : Text) (found : Reading Text) : Except Fault α :=
  match found with
  | .ok (found, rest) => Fault.before (.mistyped found expected) rest
  | .error fault => .error fault

/-- The fault that the value in front stands where `expected` belongs. -/
def complainOfNext {α : Type} (expected : Text) (bytes : Bytes) : Except Fault α :=
  match bytes with
  | [] => Fault.inFirst .expectedValue []
  | b :: rest =>
    if b = byte 'n' then complain expected (readWord "null" "ull" rest)
    else if b = byte 't' then complain expected (readWord "boolean `true`" "rue" rest)
    else if b = byte 'f' then complain expected (readWord "boolean `false`" "alse" rest)
    else if b = byte '-' then complain expected (wrap Number.described (readNumber true rest))
    else if isDigit b then complain expected (wrap Number.described (readNumber false bytes))
    else if b = byte '"' then
      complain expected (wrap (fun t => "string " ++ Quoted.text t) (readString rest))
    else if b = byte '[' then Fault.before (.mistyped "sequence" expected) bytes
    else if b = byte '\x7b' then Fault.before (.mistyped "map" expected) bytes
    else Fault.inFirst .expectedValue bytes

/-- Reads a string. -/
def readText (bytes : Bytes) : Reading Text :=
  match skipSpace bytes with
  | [] => Fault.inFirst .endOfValue []
  | b :: rest =>
    if b = byte '"' then readString rest else complainOfNext "a string" (b :: rest)

/-- Reads a truth value. -/
def readBool (bytes : Bytes) : Reading Bool :=
  match skipSpace bytes with
  | [] => Fault.inFirst .endOfValue []
  | b :: rest =>
    if b = byte 't' then readWord true "rue" rest
    else if b = byte 'f' then readWord false "alse" rest
    else complainOfNext "a boolean" (b :: rest)

/-- Reads what `read` reads, or `null`. -/
def readOptional {α : Type} (read : Bytes → Reading α) (bytes : Bytes) : Reading (Option α) :=
  match skipSpace bytes with
  | [] => wrap some (read [])
  | b :: rest =>
    if b = byte 'n' then readWord none "ull" rest else wrap some (read (b :: rest))

end VarlinkClient.Json
