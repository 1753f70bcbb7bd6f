/-
Addresses in JSON.

An address is a JSON string that holds its textual form.  What is no string has a fault
with a position; what is a string but no address has the error of its text.
-/
import VarlinkClient.Address
import VarlinkClient.Json.Field

namespace VarlinkClient.Address

/-- The JSON text of an address. -/
def encode (address : Address) : Text :=
  (Json.Value.string address.text).text

/-- Reads the JSON text of an address.  A text that is no address is told before anything
that comes after it. -/
def decode (encoded : Text) : Except Text Address :=
  let bytes := Utf8.encode encoded
  match Json.readText bytes with
  | .error fault => .error (fault.message bytes)
  | .ok (t, rest) =>
    match parse t with
    | .error error => .error error.message
    | .ok address =>
      match Json.readEnd rest with
      | .ok () => .ok address
      | .error fault => .error (fault.message bytes)

end VarlinkClient.Address
