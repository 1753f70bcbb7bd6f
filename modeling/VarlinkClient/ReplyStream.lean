/-
Printing the replies to a call.

Every reply is printed as it comes.  The stream settles on the first reply that is an
error, cannot be printed, or after which no other is awaited; it takes no notice of
replies after that.
-/
import VarlinkClient.Json.Layout
import VarlinkClient.Sink
import VarlinkClient.Wait

namespace VarlinkClient

/-- What came of a call. -/
inductive Outcome
  /-- The last reply was printed. -/
  | success
  /-- The service answered with an error. -/
  | remoteError (name : Text)
  /-- Something went wrong on this side. -/
  | localFailure (kind : FailureKind)
  /-- The wait was interrupted. -/
  | canceled
  deriving DecidableEq, Repr

/-- The exit status that an outcome leads to.  An interruption is no failure. -/
def Outcome.exitCode : Outcome → Nat
  | success | canceled => 0
  | remoteError _ => FailureKind.remoteError.code
  | localFailure kind => kind.code

/-- The two outputs of a run. -/
structure Outputs where
  /-- Where results go. -/
  stdout : Sink
  /-- Where complaints go. -/
  stderr : Sink
  deriving DecidableEq, Repr

namespace Outputs

/-- Writes a line of complaint. -/
def complain (outputs : Outputs) (line : Text) : Outputs :=
  { outputs with stderr := outputs.stderr.note line }

end Outputs

/-- The replies to one call. -/
structure ReplyStream where
  /-- More than one reply was asked for. -/
  more : Bool
  /-- How to paint what is printed. -/
  palette : Palette
  /-- Where it is printed. -/
  outputs : Outputs
  /-- Whether another reply is awaited. -/
  state : ReplyState
  /-- What came of the call, once that is settled. -/
  outcome : Option Outcome

namespace ReplyStream

/-- A stream that has seen no reply. -/
def start (more : Bool) (palette : Palette) (outputs : Outputs) : ReplyStream :=
  ⟨more, palette, outputs, .awaiting, none⟩

/-- Settles the call.  No other reply is awaited from then on. -/
def finish (stream : ReplyStream) (outcome : Outcome) : ReplyStream × ReplyState :=
  let stream := { stream with outcome := some outcome, state := .done }
  (stream, stream.state)

/-- Prints the parameters of a reply.  On failure, what comes of the call. -/
def print (palette : Palette) (reply : Reply) (outputs : Outputs) : Outputs × Option Outcome :=
  match Json.layoutParameters palette reply.parameters with
  | .error reason =>
    (outputs.complain ("Unable to read message: " ++ reason), some (.localFailure .invalidJson))
  | .ok t =>
    match outputs.stdout.writeLine t with
    | (stdout, true) => ({ outputs with stdout }, none)
    | (stdout, false) => ({ outputs with stdout }, some (.localFailure .callFailed))

/-- What comes of the call after a reply that has been printed. -/
def settle (more : Bool) (reply : Reply) : Option Outcome :=
  match reply.error with
  | some name => some (.remoteError name)
  | none => if reply.continues && more then none else some .success

/-- Names the error of a reply, when it is one. -/
def tellError (reply : Reply) (outputs : Outputs) : Outputs :=
  match reply.error with
  | some name => outputs.complain ("Call failed with error: " ++ name)
  | none => outputs

/-- Takes one reply and tells whether another is awaited. -/
def handle (stream : ReplyStream) (reply : Reply) : ReplyStream × ReplyState :=
  if stream.state = .done then (stream, stream.state)
  else
    match print stream.palette reply (tellError reply stream.outputs) with
    | (outputs, some outcome) => finish { stream with outputs } outcome
    | (outputs, none) =>
      let stream := { stream with outputs }
      match settle stream.more reply with
      | some outcome => stream.finish outcome
      | none => (stream, .awaiting)

end ReplyStream

end VarlinkClient
