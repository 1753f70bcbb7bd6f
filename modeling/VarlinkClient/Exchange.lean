/-
A call and its only reply, on any channel.

An exchange sends one call, waits for one reply and gives the channel up.  Asking a
service about itself and asking it to describe an interface are exchanges.
-/
import VarlinkClient.Answer
import VarlinkClient.Description.Parser
import VarlinkClient.Wait

namespace VarlinkClient

/-! ### Methods of every service and of the resolver -/

namespace Method

/-- Asks the resolver where an interface is found. -/
def resolve : Text :=
  "org.varlink.resolver.Resolve"

/-- Asks the resolver about itself and the interfaces it knows. -/
def resolverInfo : Text :=
  "org.varlink.resolver.GetInfo"

/-- Asks a service about itself. -/
def serviceInfo : Text :=
  "org.varlink.service.GetInfo"

/-- Asks a service to describe an interface. -/
def describe : Text :=
  "org.varlink.service.GetInterfaceDescription"

end Method

/-- The interface of the resolver itself. -/
def resolverInterface : Text :=
  "org.varlink.resolver"

/-- What a service says when asked to describe an interface. -/
inductive Introspection
  | description (description : Description)
  /-- The service answered with an error. -/
  | remoteError (name : Text)

namespace Exchange

variable {σ : Type}

/-- Keeps the first reply. -/
def keepFirst (_ : Option Reply) (reply : Reply) : Option Reply × ReplyState :=
  (some reply, .done)

/-- Makes a call and takes its only reply. -/
def callOnce (channel : Channel σ) (limit : Option Nat) (moments : List Moment)
    (method : Text) (parameters : Option Json.Members) (s : σ) : Except Stop Answer × σ :=
  match channel.send s ⟨method, parameters, false⟩ with
  | (.error failure, s) => (.error (.failed failure), s)
  | (.ok (), s) =>
    match Wait.run channel keepFirst limit moments s none with
    | (.error stop, s, _) => (.error stop, s)
    | (.ok (), s, none) => (.error (.failed .noOutcome), s)
    | (.ok (), s, some reply) => ((Answer.ofReply reply).mapError .failed, s)

/-- The parameters that name an interface. -/
def interfaceParameters (interface : Text) : Json.Members :=
  [("interface", .string interface)]

/-- The description in the only reply to a call that asked for it. -/
def introspection (answer : Answer) : Except Failure Introspection :=
  match answer.error with
  | some name => .ok (.remoteError name)
  | none =>
    match (answer.parameters.get? "description").bind Json.Value.asText? with
    | none => .error (.missingField Method.describe "description")
    | some t =>
      match Description.parse t with
      | .ok description => .ok (.description description)
      | .error error => .error (.invalidDescription error.message)

/-- Asks for the description of an interface. -/
def describe (channel : Channel σ) (limit : Option Nat) (moments : List Moment)
    (interface : Text) (s : σ) : Except Stop Introspection × σ :=
  match callOnce channel limit moments Method.describe (interfaceParameters interface) s with
  | (.error stop, s) => (.error stop, s)
  | (.ok answer, s) => ((introspection answer).mapError .failed, s)

/-- Asks a service about itself. -/
def serviceInfo (channel : Channel σ) (limit : Option Nat) (moments : List Moment) (s : σ) :
    Except Stop Answer × σ :=
  callOnce channel limit moments Method.serviceInfo none s

end Exchange

end VarlinkClient
