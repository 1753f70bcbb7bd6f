/-
The services there are, and what they do.

A world tells for each address who answers there, if anyone.  A service answers a call
with bytes and may then hang up.  The call may also not get through to it, and the
connection may break while it answers.  What a wait for its answer notices, time and
interruptions, is part of the world as well.
-/
import VarlinkClient.Connection
import VarlinkClient.Endpoint

namespace VarlinkClient

/-- What a service sends back to a call. -/
structure Response where
  /-- The bytes. -/
  bytes : Bytes
  /-- It hangs up afterwards. -/
  hangsUp : Bool
  deriving DecidableEq, Repr

/-- What becomes of a call that is sent to a service. -/
inductive Reaction
  /-- The service responds. -/
  | response (response : Response)
  /-- These bytes are sent back, and then the connection breaks for this reason. -/
  | breakdown (bytes : Bytes) (reason : Text)
  /-- So many bytes of the call get through, and for this reason no more. -/
  | refusal (length : Nat) (reason : Text)
  deriving DecidableEq, Repr

/-- A service. -/
structure Service where
  /-- What becomes of a call, given by its frame without the NUL. -/
  react : Bytes → Reaction
  /-- What is noticed turn by turn while its answer to that call is waited for. -/
  moments : Bytes → List Moment

/-- The services there are. -/
structure World where
  /-- Who answers at an address; if nobody does, why. -/
  reach : Address → Except Text Service

namespace Service

/-- Sends a call to a service.  If it gets through, what is sent back arrives. -/
def receive (service : Service) (c : Connection) (call : Call) :
    Except Failure Unit × Connection :=
  match c.send call with
  | (.error failure, c) => (.error failure, c)
  | (.ok (), called) =>
    match service.react call.encode.dropLast with
    | .response response =>
      let called := called.receive response.bytes
      (.ok (), if response.hangsUp then called.leave .finished else called)
    | .breakdown bytes reason => (.ok (), (called.receive bytes).leave (.broken reason))
    | .refusal length reason => (.error (.sendFailed reason), c.sendFront call length)

/-- A connection to a service as a channel. -/
def channel (service : Service) : Channel Connection :=
  { Connection.channel with send := service.receive }

/-- The moments of a wait that nobody interrupts: time passes only after as many turns as it
takes to go through the response. -/
def calmMoments (response : Response) : List Moment :=
  List.replicate (response.bytes.length + 2) ⟨false, 0⟩ ++ [⟨false, Wait.longest⟩]

/-- A service that responds like this while nobody interrupts. -/
def calm (respond : Bytes → Response) : Service :=
  ⟨fun frame => .response (respond frame), fun frame => calmMoments (respond frame)⟩

end Service

/-! ### Services that know some methods -/

/-- A service that has a fixed response for each method it knows. -/
abbrev Repertoire := List (Text × Response)

namespace Repertoire

/-- The method that a frame calls. -/
def calledMethod (frame : Bytes) : Text :=
  match Json.read frame with
  | .ok (.object members) =>
    ((Json.Members.get? "method" members).bind Json.Value.asText?).getD []
  | _ => []

/-- The reply to a call of a method that is not known. -/
def methodNotFound (method : Text) : Response :=
  let parameters : Json.Members := [("method", .string method)]
  let reply : Json.Members :=
    [("error", .string "org.varlink.service.MethodNotFound"), ("parameters", .object parameters)]
  ⟨Utf8.encode (Json.Value.text (.object reply)) ++ [0], false⟩

/-- The response to a call. -/
def respond (repertoire : Repertoire) (frame : Bytes) : Response :=
  let method := calledMethod frame
  match repertoire.find? fun entry => entry.1 = method with
  | some entry => entry.2
  | none => methodNotFound method

end Repertoire

namespace World

/-- A service at this address can be reached at the endpoint. -/
def listensAt (endpoint : Endpoint) (address : Address) : Bool :=
  match Endpoint.ofAddress? address with
  | .ok own => endpoint.isLocal && own = endpoint
  | .error _ => false

/-- The world in which these services listen at these addresses. -/
def ofServices (services : List (Address × Repertoire)) : World where
  reach address :=
    match Endpoint.ofAddress? address with
    | .error reason => .error reason
    | .ok endpoint =>
      match services.find? fun service => listensAt endpoint service.1 with
      | some service => .ok (.calm (Repertoire.respond service.2))
      | none => .error endpoint.nobody

end World

end VarlinkClient
