/-
The classes a failure falls into.

Each class has a name and a code.  The code is the exit status of a run that fails with
it, so codes are distinct and none is zero.
-/
import VarlinkClient.Text.Basic

namespace VarlinkClient

/-- What a failure is about. -/
inductive FailureKind
  /-- Something that the program itself should have ruled out. -/
  | internalFault
  /-- The resolver did not map an interface to an address. -/
  | cannotResolve
  /-- No command was given. -/
  | missingCommand
  /-- The command has no such name. -/
  | unknownCommand
  /-- An argument is absent. -/
  | missingArgument
  /-- An argument cannot be understood. -/
  | invalidArgument
  /-- The parameters of a call are no JSON object. -/
  | invalidJson
  /-- Nobody answers at the address. -/
  | cannotConnect
  /-- No reply came in time. -/
  | timedOut
  /-- The wait was interrupted. -/
  | canceled
  /-- The service answered with an error. -/
  | remoteError
  /-- The call could not be sent, or its reply lacks something. -/
  | callFailed
  /-- The service sent what is no message. -/
  | invalidMessage
  /-- The service hung up before the last reply. -/
  | connectionClosed
  deriving DecidableEq, Repr

namespace FailureKind

/-- All classes, by code. -/
def all : List FailureKind :=
  [internalFault, cannotResolve, missingCommand, unknownCommand, missingArgument,
    invalidArgument, invalidJson, cannotConnect, timedOut, canceled, remoteError, callFailed,
    invalidMessage, connectionClosed]

/-- The number of a class, which is also the exit status it leads to. -/
def code : FailureKind → Nat
  | internalFault => 1
  | cannotResolve => 2
  | missingCommand => 3
  | unknownCommand => 4
  | missingArgument => 5
  | invalidArgument => 6
  | invalidJson => 7
  | cannotConnect => 8
  | timedOut => 9
  | canceled => 10
  | remoteError => 11
  | callFailed => 12
  | invalidMessage => 13
  | connectionClosed => 14

/-- The name of a class. -/
def name : FailureKind → Text
  | internalFault => "Panic"
  | cannotResolve => "CannotResolve"
  | missingCommand => "MissingCommand"
  | unknownCommand => "CommandNotFound"
  | missingArgument => "MissingArgument"
  | invalidArgument => "InvalidArgument"
  | invalidJson => "InvalidJson"
  | cannotConnect => "CannotConnect"
  | timedOut => "Timeout"
  | canceled => "Canceled"
  | remoteError => "RemoteError"
  | callFailed => "CallFailed"
  | invalidMessage => "InvalidMessage"
  | connectionClosed => "ConnectionClosed"

/-- The class of a given name. -/
def ofName? (name : Text) : Option FailureKind :=
  all.find? fun kind => kind.name = name

end FailureKind

end VarlinkClient
