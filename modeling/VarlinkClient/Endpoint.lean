/-
Where an address leads on this machine.

Two addresses lead to the same socket when they name the same file, the same abstract
name or the same port.  A path is a row of names: `.` and empty names between slashes
make no difference.  What is longer than a socket address has room for leads nowhere.
-/
import VarlinkClient.Address

namespace VarlinkClient

/-- A socket. -/
inductive Endpoint
  /-- A file, by the names on the way to it, from the root or from the working directory. -/
  | file (absolute : Bool) (names : List Text) (directory : Bool)
  /-- A name in the abstract namespace. -/
  | abstract (name : Bytes)
  /-- A TCP port. -/
  | port (host : Text) (port : UInt16)
  deriving DecidableEq, Repr

namespace Endpoint

/-- The bytes that a socket address has for a path. -/
def room : Nat :=
  108

/-- The file that a path leads to. -/
def ofPath (path : Text) : Endpoint :=
  let names := Text.splitOn (· = '/') path
  file (path.head? = some '/') (names.filter fun name => name ≠ [] ∧ name ≠ ".")
    (names.getLastD [] = [] ∨ names.getLastD [] = ".")

/-- The socket that an address leads to.  A path that begins with NUL is an abstract name, any
other ends at the first NUL. -/
def ofAddress? : Address → Except Text Endpoint
  | .unix path =>
    let bytes := Utf8.encode path
    match bytes with
    | 0 :: name =>
      if room < bytes.length then .error "path must be shorter than SUN_LEN"
      else .ok (abstract name)
    | _ =>
      if room ≤ bytes.length then .error "path must be shorter than SUN_LEN"
      else .ok (ofPath (Text.upTo '\x00' path))
  | .abstract name =>
    let bytes := Utf8.encode name
    if room ≤ bytes.length then .error "abstract socket name must be shorter than SUN_LEN"
    else .ok (abstract bytes)
  | .tcp host number => .ok (port host number)

/-- What is said when nobody listens at a socket.  There is no network. -/
def nobody : Endpoint → Text
  | file _ _ _ => "No such file or directory (os error 2)"
  | abstract _ => "Connection refused (os error 111)"
  | port _ _ => "Network is unreachable (os error 101)"

/-- The socket can have a listener: there is no network, so ports cannot. -/
def isLocal : Endpoint → Bool
  | port _ _ => false
  | _ => true

end Endpoint

end VarlinkClient
