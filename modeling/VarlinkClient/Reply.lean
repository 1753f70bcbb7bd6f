/-
Replies of a service.

A reply is a JSON object whose fields `error`, `parameters` and `continues` may come in
any order, each at most once, among others that are passed over.  An array of up to three
items, the fields in that order, is taken as well.  `null` for the first two is the same
as their absence.
-/
import VarlinkClient.Failure
import VarlinkClient.Json.Field
import VarlinkClient.Json.Skip

namespace VarlinkClient

/-- One reply to a call. -/
structure Reply where
  /-- The name of the error, when the reply is one. -/
  error : Option Text
  /-- What the service says. -/
  parameters : Option Json.Value
  /-- Another reply is to follow. -/
  continues : Bool

namespace Reply

open Json (Reading Fault Cause)

/-- How deep containers in the parameters may be nested. -/
def parameterDepth : Nat :=
  Json.maxDepth - 1

/-- Reads the name of an error. -/
def readError : Bytes → Reading (Option Text) :=
  Json.readOptional Json.readText

/-- Reads parameters. -/
def readParameters : Bytes → Reading (Option Json.Value) :=
  Json.readOptional (Json.readValue parameterDepth)

/-! ### A reply as an object -/

/-- The fields of a reply that have been read. -/
structure Fields where
  error : Option (Option Text)
  parameters : Option (Option Json.Value)
  continues : Option Bool

namespace Fields

/-- No field yet. -/
def none : Fields :=
  ⟨.none, .none, .none⟩

/-- The reply with these fields; those that are absent have their usual value. -/
def toReply (fields : Fields) : Reply :=
  ⟨fields.error.join, fields.parameters.join, fields.continues.getD false⟩

end Fields

/-- The fault that a field comes again.  It is found after the key and the blanks that
follow, or after the brace that ends the object right there. -/
def repeated {α : Type} (name : Text) (rest : Bytes) : Except Fault α :=
  let rest := Json.skipSpace rest
  match rest with
  | b :: after =>
    Fault.before (.duplicateField name) (if b = Json.byte '\x7d' then after else rest)
  | [] => Fault.before (.duplicateField name) []

/-- Reads the value of a field that has not come before. -/
def readFresh {α β : Type} (name : Text) (known : Option α) (read : Bytes → Reading α)
    (put : α → β) (rest : Bytes) : Reading β :=
  match known with
  | some _ => repeated name rest
  | none =>
    match Json.readColon rest with
    | .ok rest => Json.wrap put (read rest)
    | .error fault => .error fault

/-- Reads a member after its key. -/
def readField (fields : Fields) (key : Text) (rest : Bytes) : Reading Fields :=
  if key = "error" then
    readFresh key fields.error readError (fun e => { fields with error := some e }) rest
  else if key = "parameters" then
    readFresh key fields.parameters readParameters
      (fun p => { fields with parameters := some p }) rest
  else if key = "continues" then
    readFresh key fields.continues Json.readBool
      (fun c => { fields with continues := some c }) rest
  else
    match Json.readColon rest with
    | .error fault => .error fault
    | .ok rest =>
      match Json.skipValue rest with
      | .ok rest => .ok (fields, rest)
      | .error fault => .error fault

/-- Reads the members of a reply, at most `fuel` of them. -/
def readFields : Nat → Bool → Fields → Bytes → Reading Fields
  | 0, _, _, _ => Fault.before .endOfObject []
  | fuel + 1, first, fields, bytes =>
    match Json.nextMember first bytes with
    | .error fault => .error fault
    | .ok (.done rest) => .ok (fields, rest)
    | .ok (.more bytes) =>
      match Json.readString bytes with
      | .error fault => .error fault
      | .ok (key, rest) =>
        match readField fields key rest with
        | .error fault => .error fault
        | .ok (fields, rest) => readFields fuel false fields rest

/-! ### A reply as an array -/

/-- Takes the end of an array that has no room for more items. -/
def readArrayEnd (bytes : Bytes) : Except Fault Bytes :=
  match Json.skipSpace bytes with
  | [] => Fault.inFirst .endOfList []
  | b :: rest =>
    if b = Json.byte ']' then .ok rest
    else if b = Json.byte ',' then
      match Json.skipSpace rest with
      | [] => Fault.inFirst .trailingCharacters []
      | c :: rest =>
        Fault.inFirst (if c = Json.byte ']' then .trailingComma else .trailingCharacters)
          (c :: rest)
    else Fault.inFirst .trailingCharacters (b :: rest)

/-- Reads the items of a reply. -/
def readArray (bytes : Bytes) : Reading Reply :=
  match Json.nextItem true bytes with
  | .error fault => .error fault
  | .ok (.done rest) => .ok (⟨none, none, false⟩, rest)
  | .ok (.more bytes) =>
    match readError bytes with
    | .error fault => .error fault
    | .ok (error, rest) =>
      match Json.nextItem false rest with
      | .error fault => .error fault
      | .ok (.done rest) => .ok (⟨error, none, false⟩, rest)
      | .ok (.more bytes) =>
        match readParameters bytes with
        | .error fault => .error fault
        | .ok (parameters, rest) =>
          match Json.nextItem false rest with
          | .error fault => .error fault
          | .ok (.done rest) => .ok (⟨error, parameters, false⟩, rest)
          | .ok (.more bytes) =>
            match Json.readBool bytes with
            | .error fault => .error fault
            | .ok (continues, rest) =>
              match readArrayEnd rest with
              | .ok rest => .ok (⟨error, parameters, continues⟩, rest)
              | .error fault => .error fault

/-! ### Frames -/

/-- Reads a reply. -/
def read (bytes : Bytes) : Reading Reply :=
  match Json.skipSpace bytes with
  | [] => Fault.inFirst .endOfValue []
  | b :: rest =>
    if b = Json.byte '\x7b' then
      Json.wrap Fields.toReply (readFields (rest.length + 1) true .none rest)
    else if b = Json.byte '[' then readArray rest
    else Json.complainOfNext "struct ReplyEvent" (b :: rest)

/-- Reads a reply that is all there is. -/
def readFrame (frame : Bytes) : Except Fault Reply :=
  match read frame with
  | .error fault => .error fault
  | .ok (reply, rest) =>
    match Json.readEnd rest with
    | .ok () => .ok reply
    | .error fault => .error fault

/-- The reply in a frame, which stands without the NUL that ends it. -/
def decode (frame : Bytes) : Except Failure Reply :=
  match readFrame frame with
  | .ok reply => .ok reply
  | .error fault => .error (.invalidMessage (fault.message frame))

/-- The reply is an error. -/
def isError (reply : Reply) : Bool :=
  reply.error.isSome

end Reply

end VarlinkClient
