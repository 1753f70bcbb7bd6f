/-
The tokens of each command.

Options come first: a mistake in them is told before anything else, and help ends the
reading.  Then the first positional is read as what the command is about, and last the
number of positionals is checked.
-/
import VarlinkClient.Command.Basic
import VarlinkClient.Parameters

namespace VarlinkClient

/-- What the tokens of a command ask for. -/
inductive Request (α : Type)
  /-- The help about the command. -/
  | help
  /-- What the command does. -/
  | run (details : α)
  deriving DecidableEq, Repr

namespace Request

/-- Reads the tokens of a command that has one positional and, if `hasSecond`, may have
another.  `read` reads the first, which is called `name`. -/
def parse {α β : Type} (command : Command) (name : Text)
    (read : Text → Except TargetError α) (hasSecond : Bool)
    (make : Options → α → Option Text → β) (tokens : List Text) :
    Except ArgumentError (Request β) :=
  match Options.parse command.schema tokens with
  | .error error => .error error
  | .ok options =>
    if options.showHelp then .ok .help
    else match options.positionals with
      | [] => .error (.missingPositional name)
      | first :: rest =>
        match read first with
        | .error error => .error (.target error)
        | .ok a =>
          match rest, hasSecond with
          | [], _ => .ok (.run (make options a none))
          | [second], true => .ok (.run (make options a (some second)))
          | extra :: _, false => .error (.unexpectedArgument extra)
          | _ :: extra :: _, true => .error (.unexpectedArgument extra)

end Request

/-- A call that was asked for. -/
structure CallRequest where
  /-- More than one reply is welcome. -/
  more : Bool
  /-- The method. -/
  target : MethodTarget
  /-- Where its parameters stand. -/
  parameters : Option ParameterSource
  deriving DecidableEq, Repr

namespace CallRequest

/-- Reads the tokens of `call`. -/
def parse : List Text → Except ArgumentError (Request CallRequest) :=
  Request.parse .call "INTERFACE.METHOD" MethodTarget.parse true
    fun options target second =>
      ⟨options.has .wantMore, target, second.map ParameterSource.ofArgument⟩

end CallRequest

namespace InterfaceTarget

/-- Reads the tokens of `help`. -/
def ofTokens : List Text → Except ArgumentError (Request InterfaceTarget) :=
  Request.parse .help "INTERFACE" InterfaceTarget.parse false fun _ target _ => target

end InterfaceTarget

namespace Address

/-- Reads the tokens of `info`. -/
def ofTokens : List Text → Except ArgumentError (Request Address) :=
  Request.parse .info "ADDRESS" (fun t => (parse t).mapError .address) false
    fun _ address _ => address

end Address

end VarlinkClient
