/-
The command `call`.

The parameters are read first, then the service is reached, then the call is sent, and
last its replies are printed as they come.  What goes wrong on the way to the service or
during the wait is told in a line that says how far the call had come.
-/
import VarlinkClient.Command.Arguments
import VarlinkClient.Run

namespace VarlinkClient.CallRequest

/-- What came of a call: its outcome, unless the wait never ended, and what was written. -/
abbrev Settled := Except Stop Outcome × Outputs

/-- Tells a failure of the call itself. -/
def settleFailure (stage : Text) (failure : Failure) (outputs : Outputs) : Settled :=
  (.ok (.localFailure failure.kind), outputs.complain (stage ++ ": " ++ failure.message))

/-- What came of a call whose wait has ended. -/
def settle (result : Except Stop Unit) (stream : ReplyStream) : Settled :=
  match result with
  | .ok () => (.ok (stream.outcome.getD (.localFailure .internalFault)), stream.outputs)
  | .error .waiting => (.error .waiting, stream.outputs)
  | .error (.failed .canceled) => (.ok .canceled, stream.outputs)
  | .error (.failed .connectionClosed) =>
    (.ok (.localFailure .connectionClosed), stream.outputs.complain "Connection closed.")
  | .error (.failed failure) => settleFailure "Unable to process events" failure stream.outputs

/-- Sends the call on an open channel and prints the replies. -/
def exchange {σ : Type} (channel : Channel σ) (limit : Option Nat) (moments : List Moment)
    (call : Call) (stream : ReplyStream) (s : σ) : Settled × σ :=
  match channel.send s call with
  | (.error failure, s) => (settleFailure "Unable to call" failure stream.outputs, s)
  | (.ok (), s) =>
    let (result, s, stream) := Wait.run channel ReplyStream.handle limit moments s stream
    (settle result stream, s)

/-- The call that is asked for. -/
def call (request : CallRequest) (parameters : Option Json.Members) : Call :=
  ⟨request.target.member, parameters, request.more⟩

/-- Makes the call at an address. -/
def invokeAt (desk : Desk) (request : CallRequest) (parameters : Option Json.Members)
    (address : Address) : Settled × List Visit :=
  let call := request.call parameters
  let stream := ReplyStream.start request.more desk.palette desk.outputs
  let visit := desk.session.visit address fun service connection =>
    let (settled, connection) :=
      exchange service.channel desk.session.limit (Session.momentsOf service call) call stream
        connection
    (.ok settled, connection)
  match visit with
  | (.ok settled, visits) => (settled, visits)
  | (.error .waiting, visits) => ((.error .waiting, desk.outputs), visits)
  | (.error (.failed failure), visits) =>
    (settleFailure "Unable to connect" failure desk.outputs, visits)

/-- Makes the call, at the address that is given or where the interface is found. -/
def invoke (desk : Desk) (request : CallRequest) (parameters : Option Json.Members) :
    Settled × List Visit :=
  match desk.session.locate request.target.address request.target.interface with
  | (.error .waiting, visits) => ((.error .waiting, desk.outputs), visits)
  | (.error (.failed failure), visits) =>
    (settleFailure "Unable to connect" failure desk.outputs, visits)
  | (.ok address, visits) =>
    let (settled, more) := invokeAt desk request parameters address
    (settled, visits ++ more)

/-- Runs `call`.  Beside the run, what is left of the standard input. -/
def runOn (desk : Desk) (tokens : List Text) : Run × Bytes :=
  match parse tokens with
  | .error error =>
    (.complain (Command.call.reminder error) error.kind desk.outputs [], desk.stdin)
  | .ok .help => (.print Command.call.helpText desk.outputs [], desk.stdin)
  | .ok (.run request) =>
    match ParameterSource.take request.parameters desk.stdin with
    | (.error failure, rest) => (.fail failure desk.outputs [], rest)
    | (.ok parameters, rest) =>
      let ((outcome, outputs), visits) := invoke desk request parameters
      (⟨outcome.map Outcome.exitCode, outputs, visits⟩, rest)

/-- Runs `call`. -/
def run (desk : Desk) (tokens : List Text) : Run :=
  (runOn desk tokens).1

/-- How many bytes of the standard input a run of `call` takes. -/
def consumed (desk : Desk) (tokens : List Text) : Nat :=
  desk.stdin.length - (runOn desk tokens).2.length

/-- What is asked for is done with the parameters that are loaded for it. -/
theorem run_of_parse {desk : Desk} {tokens : List Text} {request : CallRequest}
    (h : parse tokens = .ok (.run request)) :
    run desk tokens =
      match ParameterSource.load request.parameters desk.stdin with
      | .error failure => .fail failure desk.outputs []
      | .ok parameters =>
        let ((outcome, outputs), visits) := invoke desk request parameters
        ⟨outcome.map Outcome.exitCode, outputs, visits⟩ := by
  rw [run, runOn, h, ParameterSource.load]
  dsimp only
  rcases ParameterSource.take request.parameters desk.stdin with ⟨_ | _, _⟩ <;> rfl

end VarlinkClient.CallRequest
