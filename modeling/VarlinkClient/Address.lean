/-
Where a service listens.

An address names a Unix socket by path, a Unix socket by abstract name, or a TCP port
of a host.  `Address.parse` reads the textual form and says why a text is none;
`Address.text` writes it.  The two are not inverse to each other: a path is written as
it is, but read with percent escapes and only up to a `;`.
-/
import VarlinkClient.Text.Percent

namespace VarlinkClient

/-- The address of a service. -/
inductive Address
  /-- A Unix socket in the file system. -/
  | unix (path : Text)
  /-- A Unix socket in the abstract namespace. -/
  | abstract (name : Text)
  /-- A TCP port of a host. -/
  | tcp (host : Text) (port : UInt16)
  deriving DecidableEq, Repr

/-- Why a text is no address.  Each carries the text it complains about. -/
inductive AddressError
  /-- There is no `:` after a scheme. -/
  | missingScheme (input : Text)
  /-- The scheme is neither `unix` nor `tcp`. -/
  | unsupportedScheme (scheme : Text)
  /-- No host stands before the port. -/
  | missingHost (input : Text)
  /-- No `:` separates host and port. -/
  | missingPort (input : Text)
  /-- The port is no number below 65536. -/
  | invalidPort (input : Text)
  /-- A TCP address has a `/`. -/
  | unexpectedPath (input : Text)
  /-- No path or name follows `unix:`. -/
  | missingUnixPath (input : Text)
  /-- The escaped path is not UTF-8. -/
  | invalidEncoding (input : Text)
  deriving DecidableEq, Repr

namespace AddressError

/-- The wording of an error. -/
def message : AddressError → Text
  | missingScheme input => "missing address scheme in " ++ Text.inQuotes input
  | unsupportedScheme scheme => "unsupported address scheme " ++ Text.inQuotes scheme
  | missingHost input => "missing TCP host in " ++ Text.inQuotes input
  | missingPort input => "missing TCP port in " ++ Text.inQuotes input
  | invalidPort input => "invalid TCP port in " ++ Text.inQuotes input
  | unexpectedPath input => "unexpected path in TCP address " ++ Text.inQuotes input
  | missingUnixPath input => "missing Unix socket path in " ++ Text.inQuotes input
  | invalidEncoding input => "invalid percent-encoding in " ++ Text.inQuotes input

end AddressError

namespace Address

/-! ### Writing -/

/-- The textual form.  A host with a colon stands in brackets. -/
def text : Address → Text
  | unix path => "unix:" ++ path
  | abstract name => "unix:@" ++ name
  | tcp host port =>
    if ':' ∈ host then "tcp:[" ++ host ++ "]:" ++ Text.ofNat port.toNat
    else "tcp:" ++ host ++ ":" ++ Text.ofNat port.toNat

/-- The path of a socket in the file system. -/
def path? : Address → Option Text
  | unix path => some path
  | _ => none

/-! ### Reading -/

/-- A port: an optional `+` and digits of value at most 65535. -/
def port? (t : Text) : Option UInt16 :=
  match Text.natural? t with
  | some n => if n < 65536 then some (UInt16.ofNat n) else none
  | none => none

/-- Reads what follows `unix:`.  A `;` ends the location; what comes after it is of use to
a listener only. -/
def parseUnix (input rest : Text) : Except AddressError Address :=
  match Text.upTo ';' rest with
  | [] | ['@'] => .error (.missingUnixPath input)
  | '@' :: name => .ok (.abstract name)
  | location =>
    match Percent.decode? location with
    | some path => .ok (.unix path)
    | none => .error (.invalidEncoding input)

/-- Reads what follows `tcp:`.  Brackets around the host are dropped. -/
def parseTcp (input rest : Text) : Except AddressError Address :=
  if '/' ∈ rest then .error (.unexpectedPath input)
  else match Text.splitLast ':' rest with
    | none => .error (.missingPort input)
    | some (host, port) =>
      let host := Text.trimEnd (· = ']') (host.dropWhile (· = '['))
      if host = [] then .error (.missingHost input)
      else match port? port with
        | some port => .ok (.tcp host port)
        | none => .error (.invalidPort input)

/-- Reads the textual form of an address. -/
def parse (input : Text) : Except AddressError Address :=
  match Text.stripStart "unix:" input with
  | some rest => parseUnix input rest
  | none =>
    match Text.stripStart "tcp:" input with
    | some rest => parseTcp input rest
    | none =>
      match Text.splitFirst ':' input with
      | some (scheme, _) => .error (.unsupportedScheme scheme)
      | none => .error (.missingScheme input)

end Address

end VarlinkClient
