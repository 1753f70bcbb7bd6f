/-
Calls to a service.

A call is a JSON object: the method, its parameters if there are any, and whether more
than one reply is welcome.  On the wire it is followed by one NUL byte, which cannot
occur in it.
-/
import VarlinkClient.Json.Printer
import VarlinkClient.Text.Utf8

namespace VarlinkClient

/-- A call of a method. -/
structure Call where
  /-- The qualified name of the method. -/
  method : Text
  /-- What is passed to it. -/
  parameters : Option Json.Members
  /-- The service may reply more than once. -/
  more : Bool

namespace Call

/-- The members of the call as a JSON object: the parameters only when there are any, and
`more` only when it is asked for. -/
def members (call : Call) : Json.Members :=
  let method : Json.Members := [("method", .string call.method)]
  let parameters : Json.Members :=
    match call.parameters with
    | some members => [("parameters", .object members)]
    | none => []
  let more : Json.Members := if call.more then [("more", .bool true)] else []
  method ++ parameters ++ more

/-- The call as a JSON object. -/
def toJson (call : Call) : Json.Value :=
  .object call.members

/-- The call in bytes, with the NUL that ends it. -/
def encode (call : Call) : Bytes :=
  Utf8.encode call.toJson.text ++ [0]

end Call

end VarlinkClient
