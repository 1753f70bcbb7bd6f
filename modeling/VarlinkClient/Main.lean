/-
The program.

What a run depends on is gathered here: the command line, the variables and the files that
the configuration may come from, the standard input if a command wants it, and whether
the standard output is a terminal.  The run itself is `Invocation.run`; its outputs are
written and its exit status is returned.

No sockets are opened here: in the world of this program nobody listens.
-/
import VarlinkClient.CommandLine.Run

namespace VarlinkClient.Program

/-- The variables that speak about the configuration. -/
def variableNames : List String :=
  ["VARLINK_CONFIG_PATH", "VARLINK_RESOLVER", "VARLINK_TIMEOUT", "VARLINK_LOG_FILTER",
    "VARLINK_LOG_FORMAT"]

/-- The variables that are set. -/
def readEnvironment : IO Environment :=
  variableNames.filterMapM fun name => do
    return (← IO.getEnv name).map fun t => (name.toList, t.toList)

/-- The content of a file, if there is one. -/
def readFile (path : Text) : IO (Option Bytes) := do
  match ← (IO.FS.readBinFile (String.ofList path)).toBaseIO with
  | .ok content => return some content.toList
  | .error _ => return none

/-- Gathers a file, and those it extends as far as `fuel` goes. -/
def gather : Nat → Files → Text → IO Files
  | 0, files, _ => return files
  | fuel + 1, files, path => do
    if (files.content? path).isSome then return files
    let some content ← readFile path | return files
    let files := files ++ [(path, content)]
    match (Files.parse path content).bind (Files.extended? path) with
    | .ok (some next) => gather fuel files next
    | _ => return files

/-- How many files that extend each other are gathered. -/
def longestChain : Nat :=
  64

/-- The files that the configuration may come from. -/
def readFiles (split : Split) (environment : Environment) : IO Files :=
  let paths :=
    match Config.readFlags split.settings with
    | .ok flags => flags.configPath.toList
    | .error _ => []
  (paths ++ Config.usualPaths environment).foldlM (gather longestChain) []

/-- The standard input, when an argument of the command stands for it. -/
def readStdin (split : Split) : IO Bytes := do
  if split.command.contains ['-'] then
    return (← (← IO.getStdin).readBinToEnd).toList
  return []

/-- All that a run depends on. -/
def invocation (arguments : List String) : IO Invocation := do
  let arguments := ("varlink" :: arguments).map fun t => t.toUTF8.toList
  let split := Split.ofCommandLine arguments
  let environment ← readEnvironment
  let files ← readFiles split environment
  let stdin ← readStdin split
  let terminal ← (← IO.getStdout).isTty
  return {
    arguments, stdin, terminal
    outputs := ⟨.empty none, .empty none⟩
    surroundings := ⟨environment, files⟩
    world := .ofServices []
    logs := false }

/-- Runs the program.  With nobody to wait for, every run comes to an exit status. -/
def run (arguments : List String) : IO UInt32 := do
  let ending := (← invocation arguments).run
  (← IO.getStdout).write ⟨ending.outputs.stdout.written.toArray⟩
  (← IO.getStderr).write ⟨ending.outputs.stderr.written.toArray⟩
  return (ending.exit.getD 1).toUInt32

end VarlinkClient.Program

/-- The program. -/
def main (arguments : List String) : IO UInt32 :=
  VarlinkClient.Program.run arguments
