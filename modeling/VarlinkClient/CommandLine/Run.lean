/-
A run of the program, from its command line to its exit status.

The flags are read first; help, the version and mistakes in them end the run before the
configuration is loaded, and so does asking for nothing.  Then a word is completed or a
command is run.
-/
import VarlinkClient.Command.Call
import VarlinkClient.Command.Help
import VarlinkClient.Command.Info
import VarlinkClient.CommandLine.Split
import VarlinkClient.Completion
import VarlinkClient.Config.Load
import VarlinkClient.Config.LogFilter

namespace VarlinkClient

/-- All that a run depends on. -/
structure Invocation where
  /-- The command line; its first argument is the name of the program. -/
  arguments : List Bytes
  /-- What stands on the standard input. -/
  stdin : Bytes
  /-- The standard output is a terminal. -/
  terminal : Bool
  /-- Where to write. -/
  outputs : Outputs
  /-- Where the run takes place. -/
  surroundings : Surroundings
  /-- The services there are. -/
  world : World
  /-- Something else in this process has set up logging; the filter for it is not looked at. -/
  logs : Bool

/-! ### Completion -/

namespace Session

/-- Looks names up. -/
def lookUp (session : Session) : Lookup → Visiting (List Text)
  | .interfaces address => session.interfaces address
  | .methods address interface => session.methods address interface

/-- The names that can be looked up. -/
def catalog (session : Session) : Catalog :=
  fun lookup => (session.lookUp lookup).1.toOption

/-- A look-up never came to an end. -/
def hangsOn (session : Session) (lookup : Lookup) : Bool :=
  match (session.lookUp lookup).1 with
  | .error .waiting => true
  | _ => false

end Session

namespace Completion

/-- Prints what completes a word, one candidate on a line. -/
def run (desk : Desk) (command : Option Text) (tokens : List Text) (word : Text) : Run :=
  let (offered, lookups) := offered desk.session.catalog command tokens word
  let visits := lookups.flatMap fun lookup => (desk.session.lookUp lookup).2
  if lookups.any desk.session.hangsOn then ⟨.error .waiting, desk.outputs, visits⟩
  else .print (offered.flatMap fun candidate => candidate ++ ['\n']) desk.outputs visits

end Completion

/-! ### Commands -/

namespace Command

/-- Runs a command. -/
def run (desk : Desk) (command : Command) (tokens : List Text) : Run :=
  match command with
  | .call => CallRequest.run desk tokens
  | .help => InterfaceTarget.run desk tokens
  | .info => Address.run desk tokens

/-- The line about a name that no command has. -/
def unknownLine (name : Text) : Text :=
  name ++ ": Unknown command. Run 'varlink --help' for the list of commands."

/-- Runs the command of a name. -/
def runNamed (desk : Desk) (name : Text) (tokens : List Text) : Run :=
  match ofName? name with
  | none => .complain (unknownLine name) .unknownCommand desk.outputs []
  | some command => command.run desk tokens

end Command

/-! ### The whole run -/

namespace Invocation

/-- Tells what can be asked for, and fails. -/
def bare (outputs : Outputs) : Run :=
  match outputs.stderr.writeText Help.bare with
  | (stderr, true) => .fail (.reported .missingCommand) { outputs with stderr } []
  | (stderr, false) => .fail (.unwritable Sink.fullMessage) { outputs with stderr } []

/-- Does what flags that are not read to the end ask for. -/
def stop (outputs : Outputs) : FlagStop → Run
  | .help atLength => .print (Help.text atLength) outputs []
  | .version => .print Help.version outputs []
  | .refused error => .fail (.usage error.message) outputs []

/-- Does what is asked for, under a configuration. -/
def perform (invocation : Invocation) (flags : Flags) (tokens : List Text) (config : Config) :
    Run :=
  let palette := Palette.ofBool ((flags.color.getD .auto).resolve invocation.terminal)
  let session : Session := ⟨invocation.world, config.resolver, config.limit⟩
  let desk : Desk := ⟨session, palette, invocation.stdin, invocation.outputs⟩
  match flags.complete, flags.command with
  | some word, command => Completion.run desk command tokens word
  | none, some name => Command.runNamed desk name tokens
  | none, none => .fail (.reported .missingCommand) invocation.outputs []

/-- What is wrong with the filter for log lines, if it is looked at. -/
def filterFault (invocation : Invocation) (config : Config) : Option LogFilter.Fault :=
  match invocation.logs, LogFilter.check config.logFilter with
  | false, .error fault => some fault
  | _, _ => none

/-- Loads the configuration and does what is asked for. -/
def configure (invocation : Invocation) (flags : Flags) (split : Split) : Run :=
  match Config.load invocation.surroundings split.settings with
  | .error reason => .fail (.configuration reason) invocation.outputs []
  | .ok config =>
    match invocation.filterFault config with
    | some fault => .fail (.logFilter fault.message) invocation.outputs []
    | none => invocation.perform flags split.command config

/-- Reads the command line and does what is asked for. -/
def begin (invocation : Invocation) : Run :=
  let split := Split.ofCommandLine invocation.arguments
  match Flags.read split.globals.tail with
  | .error reason => stop invocation.outputs reason
  | .ok flags =>
    if flags.isBare then bare invocation.outputs else invocation.configure flags split

/-- The whole run. -/
def run (invocation : Invocation) : Ending :=
  invocation.begin.conclude

end Invocation

end VarlinkClient
