/-
Taking a command line apart.

The first argument is the name of the program.  Flags stand before the command and take
their values along; what follows the command belongs to it.  Three readers get their
share: the settings among the flags go to the configuration, all flags and the command
to the reader of flags, and the rest to the command.

No argument ends the flags but the command itself: `--` counts as a flag here.
-/
import VarlinkClient.CommandLine.Flag
import VarlinkClient.Text.Utf8

namespace VarlinkClient

/-- What an argument before the command is. -/
inductive ArgumentRole
  /-- A flag; it may set a part of the configuration, and it may want the next argument. -/
  | flag (isSetting wantsNext : Bool)
  /-- The command. -/
  | command
  deriving DecidableEq, Repr

namespace ArgumentRole

/-- The role of an argument.  A lone `-` and the empty argument are no flags. -/
def of (argument : Bytes) : ArgumentRole :=
  let t := Utf8.decodeLossy argument
  if t.head? ≠ some '-' ∨ t = ['-'] then .command
  else
    match Flag.all.find? fun known => known.spelling = Text.upTo '=' t with
    | some known => .flag known.isSetting (known.takesValue && '=' ∉ t)
    | none => .flag false false

end ArgumentRole

/-- The shares of a command line. -/
structure Split where
  /-- The name of the program and the settings. -/
  settings : List Bytes
  /-- The name of the program, the flags and the command. -/
  globals : List Bytes
  /-- What follows the command. -/
  command : List Text
  deriving DecidableEq, Repr

namespace Split

/-- The shares with a flag in front, and the value that it takes along. -/
def addFlag (isSetting : Bool) (arguments : List Bytes) (split : Split) : Split :=
  { split with
    settings := if isSetting then arguments ++ split.settings else split.settings
    globals := arguments ++ split.globals }

/-- The shares of the arguments after the name of the program. -/
def ofArguments : List Bytes → Split
  | [] => ⟨[], [], []⟩
  | argument :: rest =>
    match ArgumentRole.of argument, rest with
    | .command, rest => ⟨[], [argument], rest.map Utf8.decodeLossy⟩
    | .flag isSetting true, value :: rest =>
      (ofArguments rest).addFlag isSetting [argument, value]
    | .flag isSetting _, rest => (ofArguments rest).addFlag isSetting [argument]

/-- The shares of a command line. -/
def ofCommandLine : List Bytes → Split
  | [] => ⟨[], [], []⟩
  | program :: arguments => (ofArguments arguments).addFlag true [program]

end Split

end VarlinkClient
