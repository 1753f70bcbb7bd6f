/-
Loading the configuration.

Flags count before the environment, the environment before a file, and a file before the
defaults.  Only the value that counts is looked at: a wrong one that is replaced does no
harm.
-/
import VarlinkClient.CommandLine.Flags
import VarlinkClient.Config.Basic
import VarlinkClient.Config.Environment
import VarlinkClient.Config.Files

namespace VarlinkClient

/-- Where a run takes place. -/
structure Surroundings where
  /-- The variables that are set. -/
  environment : Environment
  /-- The files there are. -/
  files : Files

namespace Config

open Toml (Value)

/-! ### Layers -/

/-- What one source says: the value of a key, if it has one. -/
abbrev Layer := Text → Option Value

/-- What the strongest of several sources says that says anything. -/
def strongest (layers : List Layer) : Layer :=
  fun key => layers.findSome? fun layer => layer key

/-- What pairs of keys and values say; the last of a key counts. -/
def Layer.ofPairs (pairs : List (Text × Value)) : Layer :=
  fun key => (pairs.reverse.find? fun pair => pair.1 = key).map Prod.snd

/-! ### Flags -/

/-- What is said when there is something on the command line that is no setting. -/
def notSetting : Text :=
  "only settings are expected"

/-- Reads the settings of a command line, whose first argument is the name of the program. -/
def readFlags (arguments : List Bytes) : Except Text Flags :=
  match Flags.read arguments.tail with
  | .error (.refused error) => .error error.message
  | .error _ => .error notSetting
  | .ok flags =>
    if flags.color.isSome ∨ flags.complete.isSome ∨ flags.command.isSome then .error notSetting
    else .ok flags

/-- A key, and what a flag says about it. -/
def setting {α : Type} (key : Text) (flag : Option α) (value : α → Except Text Value) :
    Except Text (List (Text × Value)) :=
  match flag with
  | none => .ok []
  | some a => (value a).map fun v => [(key, v)]

/-- What an address on the command line is passed on as: its own text. -/
def addressValue (t : Text) : Except Text Value :=
  match Address.parse t with
  | .ok address => .ok (.text address.text)
  | .error error => .error error.message

/-- What a log format on the command line is passed on as: its name. -/
def logFormatValue (t : Text) : Except Text Value :=
  match LogFormat.parse? t with
  | some format => .ok (.text format.text)
  | none => .error (Text.inQuotes t ++ " is no log format")

/-- What flags say. -/
def flagLayer (flags : Flags) : Except Text Layer :=
  match setting "resolver" flags.resolver addressValue,
    setting "timeout" flags.timeout (fun n => .ok (.whole n)),
    setting "log_filter" flags.logFilter (fun t => .ok (.text t)),
    setting "log_format" flags.logFormat logFormatValue with
  | .ok resolver, .ok timeout, .ok filter, .ok format =>
    .ok (.ofPairs (resolver ++ timeout ++ filter ++ format))
  | .error reason, _, _, _ | _, .error reason, _, _ | _, _, .error reason, _
  | _, _, _, .error reason => .error reason

/-! ### Values that count -/

/-- The complaint about a value that is not of the right kind. -/
def mistyped (key : Text) : Text :=
  key ++ " has a value of the wrong kind"

/-- A value that has to be text. -/
def text (layer : Layer) (key default : Text) : Except Text Text :=
  match layer key with
  | none => .ok default
  | some (.text t) => .ok t
  | some _ => .error (mistyped key)

/-- Where the resolver listens. -/
def resolverIn (layer : Layer) : Except Text Address :=
  match text layer "resolver" Config.default.resolver.text with
  | .error reason => .error reason
  | .ok t => (Address.parse t).mapError AddressError.message

/-- For how many seconds to wait. -/
def timeoutIn (layer : Layer) : Except Text (Option Nat) :=
  match layer "timeout" with
  | none => .ok none
  | some (.whole n) =>
    if 0 ≤ n ∧ n < UInt64.size then .ok (some n.toNat) else .error (mistyped "timeout")
  | some _ => .error (mistyped "timeout")

/-- Which events are logged. -/
def logFilterIn (layer : Layer) : Except Text Text :=
  text layer "log_filter" Config.default.logFilter

/-- In which form events are logged. -/
def logFormatIn (layer : Layer) : Except Text LogFormat :=
  match text layer "log_format" Config.default.logFormat.text with
  | .error reason => .error reason
  | .ok t =>
    match LogFormat.ofName? t with
    | some format => .ok format
    | none => .error (Text.inQuotes t ++ " is no log format")

/-- The configuration that a layer amounts to. -/
def ofLayer (layer : Layer) : Except Text Config :=
  match resolverIn layer, timeoutIn layer, logFilterIn layer, logFormatIn layer with
  | .ok resolver, .ok timeout, .ok logFilter, .ok logFormat =>
    .ok ⟨resolver, timeout, logFilter, logFormat⟩
  | .error reason, _, _, _ | _, .error reason, _, _ | _, _, .error reason, _
  | _, _, _, .error reason => .error reason

/-! ### Loading -/

/-- The variable that names a configuration file. -/
def pathVariable : Text :=
  "VARLINK_CONFIG_PATH"

/-- The files that are looked for, first to last, when no flag names one. -/
def usualPaths (environment : Environment) : List Text :=
  ((environment.find? fun entry => entry.1 = pathVariable).map Prod.snd).toList ++ [Files.usual]

/-- Reads the configuration file: the one that a flag names, which has to be there; else the one
that a variable names, if it is there; else the usual one, if it is. -/
def readFile (around : Surroundings) (flag : Option Text) : Except Text (List Toml.Table) :=
  match flag with
  | some path => around.files.read path
  | none => around.files.readFirst (usualPaths around.environment)

/-- Loads the configuration, given the settings of the command line after the name of the
program. -/
def load (around : Surroundings) (arguments : List Bytes) : Except Text Config :=
  match readFlags arguments with
  | .error reason => .error reason
  | .ok flags =>
    match flagLayer flags, readFile around flags.configPath with
    | .error reason, _ | _, .error reason => .error reason
    | .ok flagLayer, .ok tables =>
      let environment := Layer.ofPairs around.environment.values
      let files := tables.map fun table key => Toml.Table.get? key table
      ofLayer (strongest (flagLayer :: environment :: files))

end Config

end VarlinkClient
