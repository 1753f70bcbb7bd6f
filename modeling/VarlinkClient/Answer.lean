/-
The only reply to a call.

A call that does not ask for more is answered by one reply, whose parameters are an
object.  Some answers have a known shape: their fields are read in the order in which
they stand, those that nobody asks for are passed over, and the first that is not as
expected is complained about.
-/
import VarlinkClient.Json.Field
import VarlinkClient.Reply

namespace VarlinkClient

/-- The only reply to a call, whose parameters are an object. -/
structure Answer where
  /-- The name of the error, when the reply is one. -/
  error : Option Text
  /-- What the service says. -/
  parameters : Json.Members

namespace Answer

/-- A reply as the only one.  Absent parameters are an empty object. -/
def ofReply (reply : Reply) : Except Failure Answer :=
  match reply.parameters with
  | none | some .null => .ok ⟨reply.error, []⟩
  | some (.object members) => .ok ⟨reply.error, members⟩
  | some _ => .error (.invalidMessage "reply parameters are not an object")

end Answer

/-! ### Parameters of a known shape -/

namespace Shape

/-- A value as a complaint names it. -/
def described : Json.Value → Text
  | .null => "null"
  | .bool true => "boolean `true`"
  | .bool false => "boolean `false`"
  | .number n => n.described
  | .string t => "string " ++ Quoted.text t
  | .array _ => "sequence"
  | .object _ => "map"

/-- The complaint that a value is not what is expected. -/
def mistyped (value : Json.Value) (expected : Text) : Text :=
  (Json.Cause.mistyped (described value) expected).text

/-- A value that has to be a text. -/
def text : Json.Value → Except Text Text
  | .string t => .ok t
  | value => .error (mistyped value "a string")

/-- Values that have to be texts. -/
def textItems : List Json.Value → Except Text (List Text)
  | [] => .ok []
  | value :: values =>
    match text value with
    | .error reason => .error reason
    | .ok t =>
      match textItems values with
      | .error reason => .error reason
      | .ok ts => .ok (t :: ts)

/-- A value that has to be an array of texts. -/
def texts : Json.Value → Except Text (List Text)
  | .array items => textItems items
  | value => .error (mistyped value "a sequence")

/-- What is said when a field is absent. -/
def missing (name : Text) : Text :=
  "missing field `" ++ name ++ "`"

end Shape

/-- What a service says about itself. -/
structure ServiceInfo where
  vendor : Text
  product : Text
  version : Text
  url : Text
  /-- The interfaces it implements. -/
  interfaces : List Text
  deriving DecidableEq, Repr

namespace ServiceInfo

/-- What has been read of it: the interfaces may still be absent. -/
structure Draft where
  info : ServiceInfo
  hasInterfaces : Bool

/-- Nothing read yet. -/
def Draft.start : Draft :=
  ⟨⟨[], [], [], [], []⟩, false⟩

/-- Reads one member; those of other names are passed over. -/
def Draft.read (draft : Draft) (key : Text) (value : Json.Value) : Except Text Draft :=
  let info := draft.info
  let put (f : Text → ServiceInfo) : Except Text Draft :=
    (Shape.text value).map fun t => { draft with info := f t }
  if key = "vendor" then put fun vendor => { info with vendor }
  else if key = "product" then put fun product => { info with product }
  else if key = "version" then put fun version => { info with version }
  else if key = "url" then put fun url => { info with url }
  else if key = "interfaces" then
    (Shape.texts value).map fun interfaces => ⟨{ info with interfaces }, true⟩
  else .ok draft

/-- Reads members in order. -/
def Draft.readAll (draft : Draft) : Json.Members → Except Text Draft
  | [] => .ok draft
  | (key, value) :: members =>
    match draft.read key value with
    | .error reason => .error reason
    | .ok draft => draft.readAll members

/-- Reads the parameters of a reply.  All but the interfaces may be absent. -/
def ofMembers (members : Json.Members) : Except Text ServiceInfo :=
  match Draft.start.readAll members with
  | .error reason => .error reason
  | .ok draft =>
    if draft.hasInterfaces then .ok draft.info else .error (Shape.missing "interfaces")

end ServiceInfo

namespace Answer

/-- The failure that the reply to `method` has not the right shape. -/
def misshapen (method reason : Text) : Failure :=
  .invalidMessage ("reply to " ++ method ++ ": " ++ reason)

/-- What a service says about itself, in reply to `method`. -/
def serviceInfo (answer : Answer) (method : Text) : Except Failure ServiceInfo :=
  match ServiceInfo.ofMembers answer.parameters with
  | .ok info => .ok info
  | .error reason => .error (misshapen method reason)

/-- The interfaces in a reply to `method`. -/
def interfaces (answer : Answer) (method : Text) : Except Failure (List Text) :=
  match answer.parameters.get? "interfaces" with
  | none => .error (misshapen method (Shape.missing "interfaces"))
  | some value =>
    match Shape.texts value with
    | .ok interfaces => .ok interfaces
    | .error reason => .error (misshapen method reason)

/-- The address in a reply to `method`. -/
def address (answer : Answer) (method : Text) : Except Failure Text :=
  match answer.parameters.get? "address" with
  | none => .error (misshapen method (Shape.missing "address"))
  | some value =>
    match Shape.text value with
    | .ok t => .ok t
    | .error reason => .error (misshapen method reason)

end Answer

end VarlinkClient
