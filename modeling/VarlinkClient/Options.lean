/-
Options of a command.

A command declares a schema: the options it knows, each by a letter and a word, with
what it asks for.  Tokens are read from left to right and options may stand anywhere
among the positionals.  `-` is a positional, `--` makes positionals of all that follows,
`-abc` is the three options `-a`, `-b` and `-c`.  An option that asks for help ends the
reading: what comes after it is not looked at, not even to find mistakes.

Reading goes by recursion on the tokens, and each token adds its part in front of what
the rest gives.  A cluster therefore means what its letters mean one after another.
-/
import VarlinkClient.FailureKind
import VarlinkClient.Target

namespace VarlinkClient

/-- What an option asks for. -/
inductive Effect
  /-- Show the help of the command and do nothing else. -/
  | showHelp
  /-- Let the service send more than one reply. -/
  | wantMore
  deriving DecidableEq, Repr

/-- One option a command knows. -/
structure OptionSpec where
  /-- The letter, for `-x`. -/
  short : Char
  /-- The word, for `--word`. -/
  long : Text
  /-- What it asks for. -/
  effect : Effect
  /-- What the help says about it. -/
  summary : Text
  deriving DecidableEq, Repr

/-- The options a command knows; where two share a spelling the first counts. -/
abbrev Schema := List OptionSpec

/-- The option every command has. -/
def OptionSpec.help : OptionSpec :=
  ⟨'h', "help", .showHelp, "Display this help text and exit"⟩

/-- Why the tokens of a command are refused. -/
inductive ArgumentError
  /-- No option is spelled like this. -/
  | unknownOption (token : Text)
  /-- The option was given a value. -/
  | unexpectedValue (option : Text)
  /-- A positional that has to be there is not. -/
  | missingPositional (name : Text)
  /-- There is one positional too many. -/
  | unexpectedArgument (token : Text)
  /-- The first positional is no target. -/
  | target (error : TargetError)
  deriving DecidableEq, Repr

namespace ArgumentError

/-- The wording of an error. -/
def message : ArgumentError → Text
  | unknownOption token => "unrecognised option " ++ Text.inQuotes token
  | unexpectedValue option => "option " ++ Text.inQuotes option ++ " does not take a value"
  | missingPositional name => "missing " ++ name
  | unexpectedArgument token => "unexpected argument " ++ Text.inQuotes token
  | target error => error.message

/-- The class of an error. -/
def kind : ArgumentError → FailureKind
  | missingPositional _ => .missingArgument
  | _ => .invalidArgument

end ArgumentError

/-- What the tokens of a command say. -/
structure Options where
  /-- Help was asked for, and nothing after that was read. -/
  showHelp : Bool
  /-- What the options ask for, in order, help apart. -/
  effects : List Effect
  /-- The tokens that are no options, in order. -/
  positionals : List Text
  deriving DecidableEq, Repr

namespace Options

/-- Some option asks for `effect`. -/
def has (options : Options) (effect : Effect) : Bool :=
  effect ∈ options.effects

/-- The options with one more effect in front. -/
def addEffect (effect : Effect) (options : Options) : Options :=
  { options with effects := effect :: options.effects }

/-- The options with one more positional in front. -/
def addPositional (token : Text) (options : Options) : Options :=
  { options with positionals := token :: options.positionals }

/-! ### Finding an option in a schema -/

/-- The option of a letter. -/
def findShort (schema : Schema) (letter : Char) : Except ArgumentError OptionSpec :=
  match schema.find? fun spec => spec.short = letter with
  | some spec => .ok spec
  | none => .error (.unknownOption ['-', letter])

/-- The option of a word, which stands after `--`.  An option that is known takes no value. -/
def findLong (schema : Schema) (word : Text) : Except ArgumentError OptionSpec :=
  let name := Text.upTo '=' word
  match schema.find? fun spec => spec.long = name with
  | none => .error (.unknownOption ("--" ++ word))
  | some spec => if '=' ∈ word then .error (.unexpectedValue ("--" ++ name)) else .ok spec

/-! ### Reading tokens -/

/-- Puts an option in front of what follows it.  Help lets nothing follow. -/
def applyOption (found : Except ArgumentError OptionSpec)
    (following : Except ArgumentError Options) : Except ArgumentError Options :=
  match found with
  | .error error => .error error
  | .ok spec =>
    if spec.effect = .showHelp then .ok ⟨true, [], []⟩
    else following.map (addEffect spec.effect)

/-- Puts the options of a cluster in front of what follows it. -/
def applyLetters (schema : Schema) (letters : Text)
    (following : Except ArgumentError Options) : Except ArgumentError Options :=
  letters.foldr (fun letter rest => applyOption (findShort schema letter) rest) following

/-- Reads the tokens of a command. -/
def parse (schema : Schema) : List Text → Except ArgumentError Options
  | [] => .ok ⟨false, [], []⟩
  | token :: tokens =>
    match token with
    | ['-', '-'] => .ok ⟨false, [], tokens⟩
    | '-' :: '-' :: word => applyOption (findLong schema word) (parse schema tokens)
    | '-' :: letter :: letters => applyLetters schema (letter :: letters) (parse schema tokens)
    | _ => (parse schema tokens).map (addPositional token)

/-! ### Help -/

/-- The line of the help about one option. -/
def helpLine (spec : OptionSpec) : Text :=
  "  " ++ Text.padEnd 22 ("-" ++ [spec.short] ++ ", --" ++ spec.long) ++ " " ++ spec.summary ++ "\n"

/-- The part of the help about the options. -/
def helpText (schema : Schema) : Text :=
  schema.flatMap helpLine

end Options

end VarlinkClient
