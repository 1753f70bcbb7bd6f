/-
What a command is aimed at.

A method target is `INTERFACE.METHOD`, an interface target `INTERFACE`; either may name
the service to ask by an address and a `/` in front.  Addresses may hold slashes
themselves, names may not, so the last `/` separates the two.
-/
import VarlinkClient.Address

namespace VarlinkClient

/-- Why a text is no target. -/
inductive TargetError
  /-- The name has no `.`. -/
  | missingSeparator (name : Text)
  /-- No interface stands before the last `.`. -/
  | missingInterface (input : Text)
  /-- No method stands after the last `.`. -/
  | missingMethod (input : Text)
  /-- What stands before the last `/` is no address. -/
  | address (error : AddressError)
  deriving DecidableEq, Repr

/-- The wording of an error. -/
def TargetError.message : TargetError → Text
  | missingSeparator name => Text.inQuotes name ++ " is not a qualified name"
  | missingInterface input => "missing interface in " ++ Text.inQuotes input
  | missingMethod input => "missing method in " ++ Text.inQuotes input
  | address error => error.message

/-- Takes the address off the front of a target, when there is one. -/
def splitAddress (input : Text) : Except TargetError (Option Address × Text) :=
  match Text.splitLast '/' input with
  | none => .ok (none, input)
  | some (before, name) =>
    match Address.parse before with
    | .ok address => .ok (some address, name)
    | .error error => .error (.address error)

/-- A method of an interface, at a given service or wherever the interface is found. -/
structure MethodTarget where
  /-- The service to ask; without one, the interface has to be resolved. -/
  address : Option Address
  /-- The interface, which may have dots. -/
  interface : Text
  /-- The method, which has none. -/
  method : Text
  deriving DecidableEq, Repr

namespace MethodTarget

/-- The qualified name that a call carries. -/
def member (target : MethodTarget) : Text :=
  target.interface ++ "." ++ target.method

/-- The textual form. -/
def text (target : MethodTarget) : Text :=
  match target.address with
  | some address => address.text ++ "/" ++ target.member
  | none => target.member

/-- Reads `[ADDRESS/]INTERFACE.METHOD`. -/
def parse (input : Text) : Except TargetError MethodTarget :=
  match splitAddress input with
  | .error error => .error error
  | .ok (address, name) =>
    match Text.splitLast '.' name with
    | none => .error (.missingSeparator name)
    | some ([], _) => .error (.missingInterface input)
    | some (_, []) => .error (.missingMethod input)
    | some (interface, method) => .ok ⟨address, interface, method⟩

end MethodTarget

/-- An interface, at a given service or wherever it is found. -/
structure InterfaceTarget where
  /-- The service to ask; without one, the interface has to be resolved. -/
  address : Option Address
  /-- The interface, which has a dot. -/
  interface : Text
  deriving DecidableEq, Repr

namespace InterfaceTarget

/-- Reads `[ADDRESS/]INTERFACE`.  One `.` at the end, as completion leaves it, is dropped. -/
def parse (input : Text) : Except TargetError InterfaceTarget :=
  match splitAddress input with
  | .error error => .error error
  | .ok (address, name) =>
    let interface := (Text.stripEnd ['.'] name).getD name
    if interface = [] then .error (.missingInterface input)
    else if '.' ∈ interface then .ok ⟨address, interface⟩
    else .error (.missingSeparator interface)

end InterfaceTarget

end VarlinkClient
