/-
The commands.

A command has a name, options, a help text, and a line for each way in which its tokens
can be wrong: something absent, or something that cannot be understood.
-/
import VarlinkClient.Options

namespace VarlinkClient

/-- What the client can be asked to do. -/
inductive Command
  /-- Call a method. -/
  | call
  /-- Print the description of an interface. -/
  | help
  /-- Print information about a service. -/
  | info
  deriving DecidableEq, Repr

namespace Command

/-- The commands there are. -/
def all : List Command :=
  [call, help, info]

/-- The name of a command. -/
def name : Command → Text
  | call => "call"
  | help => "help"
  | info => "info"

/-- The command of a name. -/
def ofName? (t : Text) : Option Command :=
  all.find? fun command => command.name = t

/-- What is said when no command has a name. -/
def noSuchName : Text :=
  "Matching variant not found"

/-- The option of `call` that asks for more than one reply. -/
def moreOption : OptionSpec :=
  ⟨'m', "more", .wantMore, "Wait for multiple method returns if supported"⟩

/-- The options of a command. -/
def schema : Command → Schema
  | call => [.help, moreOption]
  | help => [.help]
  | info => [.help]

/-- How a command is written. -/
def usage : Command → Text
  | call => "call [OPTIONS] [ADDRESS/]INTERFACE.METHOD [ARGUMENTS]"
  | help => "help [OPTIONS] [ADDRESS/]INTERFACE"
  | info => "info [OPTIONS] ADDRESS"

/-- What a command does. -/
def summary : Command → Text
  | call => "Call a method. ARGUMENTS is a JSON object; '-' reads it from stdin."
  | help => "Print the description of an interface."
  | info => "Print information about the service listening on ADDRESS."

/-- The help about a command. -/
def helpText (command : Command) : Text :=
  "Usage: varlink " ++ command.usage ++ "\n\n" ++ command.summary ++ "\n\nOptions:\n" ++
    Options.helpText command.schema

/-- What a command wants to be given. -/
def wants : Command → Text
  | call => "INTERFACE.METHOD [ARGUMENTS] expected"
  | help => "[ADDRESS/]INTERFACE expected"
  | info => "ADDRESS expected"

/-- The line about tokens that are refused. -/
def reminder (command : Command) (error : ArgumentError) : Text :=
  match command, error with
  | call, .target (.missingMethod _) => "Missing method."
  | _, .missingPositional _ => "Missing argument, " ++ command.wants
  | _, _ => "Invalid argument, " ++ command.wants

end Command

end VarlinkClient
