/-
Everything that can go wrong in a run.

Each failure carries what its wording needs and belongs to one class, which decides the
exit status.
-/
import VarlinkClient.Options

namespace VarlinkClient

/-- What went wrong. -/
inductive Failure
  /-- The configuration cannot be loaded. -/
  | configuration (reason : Text)
  /-- The command line cannot be read; the reason is the whole message. -/
  | usage (reason : Text)
  /-- A failure that has been told already. -/
  | reported (kind : FailureKind)
  /-- The tokens of a command are refused. -/
  | arguments (error : ArgumentError)
  /-- The parameters could not be read from the input. -/
  | unreadableParameters (reason : Text)
  /-- The parameters are no JSON. -/
  | malformedParameters (reason : Text)
  /-- The parameters are JSON, but no object. -/
  | parametersNotObject
  /-- No address is known for an interface. -/
  | unresolved (interface reason : Text)
  /-- Nobody answers at an address. -/
  | unreachable (address reason : Text)
  /-- Addresses of this kind cannot be reached from here. -/
  | unsupportedAddress (address : Text)
  /-- A call could not be put into bytes. -/
  | unencodableCall (reason : Text)
  /-- A call could not be sent. -/
  | sendFailed (reason : Text)
  /-- A reply could not be read. -/
  | readFailed (reason : Text)
  /-- What came is no message. -/
  | invalidMessage (reason : Text)
  /-- The service hung up. -/
  | connectionClosed
  /-- No reply came in time. -/
  | timedOut
  /-- The wait was interrupted. -/
  | canceled
  /-- The service answered with an error. -/
  | remoteError (name : Text)
  /-- A reply lacks a field it has to have. -/
  | missingField (method field : Text)
  /-- The description of an interface cannot be read. -/
  | invalidDescription (reason : Text)
  /-- The wait ended well, but nothing came of it. -/
  | noOutcome
  /-- The output takes no more. -/
  | unwritable (reason : Text)
  /-- Interruptions cannot be noticed. -/
  | noSignals (reason : Text)
  /-- The filter for log lines cannot be read. -/
  | logFilter (reason : Text)
  deriving DecidableEq, Repr

namespace Failure

/-- The wording of a failure. -/
def message : Failure → Text
  | configuration reason => "failed to load configuration: " ++ reason
  | usage reason => reason
  | reported kind => kind.name
  | arguments error => error.message
  | unreadableParameters reason => "failed to read parameters from stdin: " ++ reason
  | malformedParameters reason =>
    "Unable to parse input parameters, must be valid JSON: " ++ reason
  | parametersNotObject => "Unable to parse input parameters, expected a JSON object"
  | unresolved interface reason => "cannot resolve interface " ++ interface ++ ": " ++ reason
  | unreachable address reason => "failed to connect to " ++ address ++ ": " ++ reason
  | unsupportedAddress address => "address " ++ address ++ " is not supported on this platform"
  | unencodableCall reason => "failed to serialise call: " ++ reason
  | sendFailed reason => "failed to send call: " ++ reason
  | readFailed reason => "failed to read reply: " ++ reason
  | invalidMessage reason => "invalid message: " ++ reason
  | connectionClosed => "connection closed"
  | timedOut => "timed out waiting for a reply"
  | canceled => "canceled"
  | remoteError name => "call failed with error: " ++ name
  | missingField method field =>
    "reply to " ++ method ++ " lacks the " ++ Text.inQuotes field ++ " field"
  | invalidDescription reason => "invalid interface description: " ++ reason
  | noOutcome => "reply stream finished without an outcome"
  | unwritable reason => "failed to write output: " ++ reason
  | noSignals reason => "failed to install signal handlers: " ++ reason
  | logFilter reason => "invalid log filter: " ++ reason

/-- The class of a failure. -/
def kind : Failure → FailureKind
  | configuration _ | usage _ => .invalidArgument
  | reported kind => kind
  | arguments error => error.kind
  | unreadableParameters _ | malformedParameters _ | parametersNotObject => .invalidJson
  | unresolved _ _ => .cannotResolve
  | unreachable _ _ | unsupportedAddress _ => .cannotConnect
  | unencodableCall _ | sendFailed _ | missingField _ _ => .callFailed
  | readFailed _ | connectionClosed => .connectionClosed
  | invalidMessage _ | invalidDescription _ => .invalidMessage
  | timedOut => .timedOut
  | canceled => .canceled
  | remoteError _ => .remoteError
  | noOutcome | unwritable _ | noSignals _ | logFilter _ => .internalFault

/-- The exit status a failure leads to. -/
def exitCode (failure : Failure) : Nat :=
  failure.kind.code

end Failure

end VarlinkClient
