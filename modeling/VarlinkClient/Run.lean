/-
What a run hands from step to step.

A step may write, visit services, and end the run: with an exit status, with a failure
that is still to be told, or not at all because a wait never ended.  `Run.conclude` tells
the failure and settles the exit status.
-/
import VarlinkClient.ReplyStream
import VarlinkClient.Session

namespace VarlinkClient

/-- What a command has to work with. -/
structure Desk where
  /-- Who asks services. -/
  session : Session
  /-- How to paint. -/
  palette : Palette
  /-- What stands on the standard input. -/
  stdin : Bytes
  /-- Where to write. -/
  outputs : Outputs

/-- How far a run has come. -/
structure Run where
  /-- The exit status, or why there is none. -/
  result : Except Stop Nat
  /-- What was written. -/
  outputs : Outputs
  /-- The visits that were made, in order. -/
  visits : List Visit

/-- How a run ends. -/
structure Ending where
  /-- The exit status; none while the run is still waiting. -/
  exit : Option Nat
  /-- What was written. -/
  outputs : Outputs
  /-- The visits that were made, in order. -/
  visits : List Visit

namespace Run

/-- A run that comes to an exit status. -/
def exit (status : Nat) (outputs : Outputs) (visits : List Visit) : Run :=
  ⟨.ok status, outputs, visits⟩

/-- A run that fails. -/
def fail (failure : Failure) (outputs : Outputs) (visits : List Visit) : Run :=
  ⟨.error (.failed failure), outputs, visits⟩

/-- Writes a result, and is done when it fits. -/
def print (t : Text) (outputs : Outputs) (visits : List Visit) : Run :=
  match outputs.stdout.writeText t with
  | (stdout, true) => exit 0 { outputs with stdout } visits
  | (stdout, false) => fail (.unwritable Sink.fullMessage) { outputs with stdout } visits

/-- Complains in a line, and fails without another word. -/
def complain (line : Text) (kind : FailureKind) (outputs : Outputs) (visits : List Visit) : Run :=
  fail (.reported kind) (outputs.complain line) visits

/-- The end of a run.  An interruption is no failure, and a failure that has been told is not
told again. -/
def conclude (run : Run) : Ending :=
  match run.result with
  | .ok status => ⟨some status, run.outputs, run.visits⟩
  | .error .waiting => ⟨none, run.outputs, run.visits⟩
  | .error (.failed .canceled) => ⟨some 0, run.outputs, run.visits⟩
  | .error (.failed (.reported kind)) => ⟨some kind.code, run.outputs, run.visits⟩
  | .error (.failed failure) =>
    ⟨some failure.exitCode, run.outputs.complain failure.message, run.visits⟩

end Run

end VarlinkClient
