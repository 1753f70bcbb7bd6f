/-
The parameters of a call, as a user gives them.

They are a JSON object, in a text or on the standard input; blank input means that there
are none.
-/
import VarlinkClient.Failure
import VarlinkClient.Json.Reader
import VarlinkClient.Text.Blank

namespace VarlinkClient

/-- Where the parameters of a call stand. -/
inductive ParameterSource
  /-- In an argument. -/
  | text (t : Text)
  /-- On the standard input. -/
  | stdin
  deriving DecidableEq, Repr

namespace ParameterSource

/-- The source an argument names; `-` is the standard input. -/
def ofArgument (argument : Text) : ParameterSource :=
  if argument = ['-'] then .stdin else .text argument

/-- The parameters in a text. -/
def parse (t : Text) : Except Failure (Option Json.Members) :=
  if Text.isAllBlank t then .ok none
  else match Json.parse t with
    | .ok (.object members) => .ok (some members)
    | .ok _ => .error .parametersNotObject
    | .error reason => .error (.malformedParameters reason)

/-- Takes the parameters from a source.  Beside them, what is left of the standard input: all of
it unless it is the source, and else nothing. -/
def take (source : Option ParameterSource) (stdin : Bytes) :
    Except Failure (Option Json.Members) × Bytes :=
  match source with
  | none => (.ok none, stdin)
  | some (.text t) => (parse t, stdin)
  | some .stdin =>
    match Utf8.decode? stdin with
    | some t => (parse t, [])
    | none => (.error (.unreadableParameters "stream did not contain valid UTF-8"), [])

/-- The parameters at a source, given what stands on the standard input. -/
def load (source : Option ParameterSource) (stdin : Bytes) :
    Except Failure (Option Json.Members) :=
  (take source stdin).1

/-- How many bytes of the standard input are taken with the parameters. -/
def consumed (source : Option ParameterSource) (stdin : Bytes) : Nat :=
  stdin.length - (take source stdin).2.length

end ParameterSource

end VarlinkClient
