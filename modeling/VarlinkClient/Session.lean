/-
A session: services, a resolver, and patience.

A session reaches services by address, or by interface through the resolver.  Beside its
result every function gives the visits that were made, in order: the connections opened,
with what was sent over each.
-/
import VarlinkClient.Exchange
import VarlinkClient.World

namespace VarlinkClient

/-- A connection that was opened, and what was sent over it. -/
structure Visit where
  address : Address
  sent : Bytes
  deriving DecidableEq, Repr

/-- Who asks: the world around, the resolver, and how long to wait for a reply. -/
structure Session where
  world : World
  /-- The address of the resolver. -/
  resolver : Address
  /-- For how many milliseconds to wait. -/
  limit : Option Nat

/-- A result, and the visits that led to it. -/
abbrev Visiting (α : Type) := Except Stop α × List Visit

namespace Session

variable {α : Type}

/-- Opens a connection and makes an exchange on it. -/
def visit (session : Session) (address : Address)
    (exchange : Service → Connection → Except Stop α × Connection) : Visiting α :=
  match session.world.reach address with
  | .error reason => (.error (.failed (.unreachable address.text reason)), [])
  | .ok service =>
    let (result, c) := exchange service .fresh
    (result, [⟨address, c.sent⟩])

/-- What a wait for the answer to a call notices. -/
def momentsOf (service : Service) (call : Call) : List Moment :=
  service.moments call.encode.dropLast

/-- Makes a call at an address and takes its only reply. -/
def ask (session : Session) (address : Address) (method : Text)
    (parameters : Option Json.Members) : Visiting Answer :=
  session.visit address fun service =>
    Exchange.callOnce service.channel session.limit
      (momentsOf service ⟨method, parameters, false⟩) method parameters

/-- Asks for the description of an interface at an address. -/
def describeAt (session : Session) (address : Address) (interface : Text) :
    Visiting Introspection :=
  session.visit address fun service =>
    Exchange.describe service.channel session.limit
      (momentsOf service ⟨Method.describe, some (Exchange.interfaceParameters interface), false⟩)
      interface

/-! ### Finding the service of an interface -/

/-- Makes of a failure the reason why an interface is not resolved. -/
def notResolved (interface : Text) : Stop → Stop
  | .failed failure => .failed (.unresolved interface failure.message)
  | .waiting => .waiting

/-- The address in the answer of the resolver. -/
def resolvedAddress (interface : Text) (answer : Answer) : Except Failure Address :=
  match answer.error with
  | some name => .error (.unresolved interface name)
  | none =>
    match answer.address Method.resolve with
    | .error failure => .error (.unresolved interface failure.message)
    | .ok t =>
      match Address.parse t with
      | .ok address => .ok address
      | .error error => .error (.unresolved interface error.message)

/-- Asks the resolver where an interface is found.  Its own interface is found at its own
address. -/
def resolve (session : Session) (interface : Text) : Visiting Address :=
  if interface = resolverInterface then (.ok session.resolver, [])
  else
    match session.ask session.resolver Method.resolve
      (some (Exchange.interfaceParameters interface)) with
    | (.error stop, visits) => (.error (notResolved interface stop), visits)
    | (.ok answer, visits) => ((resolvedAddress interface answer).mapError .failed, visits)

/-- The address to go to: the one that is given, or where the interface is found. -/
def locate (session : Session) (address : Option Address) (interface : Text) :
    Visiting Address :=
  match address with
  | some address => (.ok address, [])
  | none => session.resolve interface

/-- Asks for the description of an interface, at a given address or where it is found. -/
def describe (session : Session) (address : Option Address) (interface : Text) :
    Visiting Introspection :=
  match session.locate address interface with
  | (.error stop, visits) => (.error stop, visits)
  | (.ok address, visits) =>
    let (result, more) := session.describeAt address interface
    (result, visits ++ more)

/-! ### Names of interfaces and methods -/

/-- The interfaces of a service, or of all that the resolver knows. -/
def interfaces (session : Session) (address : Option Address) : Visiting (List Text) :=
  let (target, method) :=
    match address with
    | some address => (address, Method.serviceInfo)
    | none => (session.resolver, Method.resolverInfo)
  match session.ask target method none with
  | (.error stop, visits) => (.error stop, visits)
  | (.ok answer, visits) =>
    match answer.error with
    | some name => (.error (.failed (.remoteError name)), visits)
    | none => ((answer.interfaces method).mapError .failed, visits)

/-- The methods of an interface. -/
def methods (session : Session) (address : Option Address) (interface : Text) :
    Visiting (List Text) :=
  match session.describe address interface with
  | (.error stop, visits) => (.error stop, visits)
  | (.ok (.description description), visits) => (.ok description.methodNames, visits)
  | (.ok (.remoteError name), visits) => (.error (.failed (.remoteError name)), visits)

end Session

end VarlinkClient
