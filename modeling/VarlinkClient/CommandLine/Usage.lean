/-
What is said about flags.

A command line whose flags are refused gets a complaint, tips where there are any, and
often a line on usage; one that asks for help gets it, in brief or at length.
-/
import VarlinkClient.CommandLine.Flag
import VarlinkClient.Palette
import VarlinkClient.Text.Similarity
import VarlinkClient.Text.Whole

namespace VarlinkClient

/-- What had been given when flags were refused. -/
structure Given where
  /-- The flags, in order. -/
  flags : List Flag
  /-- The command. -/
  command : Bool
  deriving DecidableEq, Repr

namespace Given

/-- Nothing. -/
def nothing : Given :=
  ⟨[], false⟩

/-- The same, and one more flag unless it is there. -/
def withFlag (given : Given) (flag : Flag) : Given :=
  if flag ∈ given.flags then given else { given with flags := given.flags ++ [flag] }

/-- The words that stand for what was given; flags that help does not list have none. -/
def words (given : Given) : List Text :=
  let command : List Text := if given.command then ["<COMMAND>"] else []
  (given.flags.filter fun flag => !flag.isHidden).map Flag.shown ++ command

/-- The line on usage that suits what was given. -/
def usage (given : Given) : Text :=
  let front : List Text := if given.words = [] then ["[OPTIONS]"] else given.words
  let back : List Text := if given.command then [] else ["[COMMAND]"]
  "Usage: varlink " ++ Text.join " " (front ++ back)

end Given

/-- Why flags are refused. -/
inductive UsageError
  /-- No flag has this word; another may be similar. -/
  | unknownWord (word : Text) (similar : Option Flag) (given : Given)
  /-- No flag has this letter. -/
  | unknownLetter (letter : Text)
  /-- There is a command already. -/
  | unexpectedArgument (argument : Text)
  /-- A flag comes again. -/
  | repeated (flag : Flag)
  /-- A flag has no value. -/
  | missingValue (flag : Flag)
  /-- The value of a flag is no number. -/
  | badNumber (flag : Flag) (value : Text) (error : WholeError)
  /-- The value of a flag is not when to colour. -/
  | badChoice (flag : Flag) (value : Text)
  /-- A flag that takes no value has one. -/
  | unwantedValue (flag : Flag) (value : Text) (given : Given)
  /-- An argument is no text. -/
  | notText
  deriving DecidableEq, Repr

namespace UsageError

/-- The error that no flag has this word. -/
def ofWord (word : Text) (given : Given) : UsageError :=
  match Text.mostSimilar Flag.name word Flag.all with
  | some flag => .unknownWord word (some flag) (given.withFlag flag)
  | none => .unknownWord word none given

/-! ### Wording -/

/-- The values that a flag can have, on a line of their own. -/
def choices : Flag → Text
  | .color =>
    "\n  [possible values: " ++ Text.join ", " (ColorChoice.all.map ColorChoice.text) ++ "]"
  | _ => []

/-- That a flag has no value. -/
def valueRequired (flag : Flag) : Text :=
  "a value is required for " ++ Text.inQuotes flag.shown ++ " but none was supplied" ++ choices flag

/-- That a flag has a wrong value. -/
def invalidValue (flag : Flag) (value : Text) : Text :=
  "invalid value " ++ Text.inQuotes value ++ " for " ++ Text.inQuotes flag.shown

/-- That an argument should not be there. -/
def unexpected (argument : Text) : Text :=
  "unexpected argument " ++ Text.inQuotes argument ++ " found"

/-- What is wrong. -/
def complaint : UsageError → Text
  | unknownWord word _ _ => unexpected ("--" ++ word)
  | unknownLetter letter => unexpected ("-" ++ letter)
  | unexpectedArgument argument => unexpected argument
  | repeated flag => "the argument " ++ Text.inQuotes flag.shown ++ " cannot be used multiple times"
  | missingValue flag | badChoice flag [] => valueRequired flag
  | badChoice flag value => invalidValue flag value ++ choices flag
  | badNumber flag value error => invalidValue flag value ++ ": " ++ error.message
  | unwantedValue flag value _ =>
    "unexpected value " ++ Text.inQuotes value ++ " for " ++ Text.inQuotes flag.shown ++
      " found; no more were expected"
  | notText => "invalid UTF-8 was detected in one or more arguments"

/-- How to write an argument that looks like a flag but is none. -/
def dashesTip (argument : Text) : Text :=
  "to pass " ++ Text.inQuotes argument ++ " as a value, use " ++ Text.inQuotes ("-- " ++ argument)

/-- What may have been meant. -/
def tip : UsageError → Option Text
  | unknownWord _ (some flag) _ =>
    some ("a similar argument exists: " ++ Text.inQuotes flag.spelling)
  | unknownWord word none _ => some (dashesTip ("--" ++ word))
  | unknownLetter letter => some (dashesTip ("-" ++ letter))
  | badChoice _ value =>
    (Text.mostSimilar ColorChoice.text value ColorChoice.all).map fun choice =>
      "a similar value exists: " ++ Text.inQuotes choice.text
  | _ => none

/-- The line on usage. -/
def usage : UsageError → Option Text
  | unknownWord _ _ given | unwantedValue _ _ given => some given.usage
  | unknownLetter _ | unexpectedArgument _ | repeated _ | notText => some Given.nothing.usage
  | missingValue _ | badNumber _ _ _ | badChoice _ _ => none

/-- The whole message. -/
def message (error : UsageError) : Text :=
  "error: " ++ error.complaint ++
    (match error.tip with
      | some tip => "\n\n  tip: " ++ tip
      | none => []) ++
    (match error.usage with
      | some usage => "\n\n" ++ usage
      | none => []) ++
    "\n\nFor more information, try '--help'.\n"

end UsageError

/-! ### Help -/

namespace Help

/-- The version of the program. -/
def version : Text :=
  "varlink 0.1.0\n"

/-- What a flag is for. -/
def summary (atLength : Bool) : Flag → Text
  | .configPath => "Path to a TOML configuration file"
  | .resolver => "Address of the resolver service"
  | .timeout => "Seconds to wait for a reply"
  | .logFilter => "Filter expression for diagnostics on stderr"
  | .logFormat => "Diagnostic format: compact or json"
  | .color => "When to colour output"
  | .complete => "Prints completion candidates for WORD and exits"
  | .help => if atLength then "Print help (see a summary with '-h')"
    else "Print help (see more with '--help')"
  | .version => "Print version"

/-- What it means to choose when to colour. -/
def choiceSummary : ColorChoice → Text
  | .auto => "Colour output only when stdout is a terminal"
  | .always => "Always colour output"
  | .never => "Never colour output"

/-- The letter of a flag, or as many blanks. -/
def letterColumn (flag : Flag) : Text :=
  match flag.letter? with
  | some c => "  -" ++ [c] ++ ", "
  | none => "      "

/-- Where the text at length stands. -/
def margin : Text :=
  "          "

/-- What there is to say about the values of a flag, in brief. -/
def briefValues : Flag → Text
  | .color => " [default: auto] [possible values: auto, always, never]"
  | _ => []

/-- The line about one choice. -/
def choiceLine (choice : ColorChoice) : Text :=
  margin ++ "- " ++ Text.padEnd 7 (choice.text ++ ":") ++ " " ++ choiceSummary choice ++ "\n"

/-- What there is to say about the values of a flag, at length. -/
def longValues : Flag → Text
  | .color =>
    "\n" ++ margin ++ "Possible values:\n" ++ ColorChoice.all.flatMap choiceLine ++
      margin ++ "\n" ++ margin ++ "[default: auto]\n"
  | _ => []

/-- The flags that help lists. -/
def listed : List Flag :=
  Flag.all.filter fun flag => !flag.isHidden

/-- The flags in brief, one on a line. -/
def briefFlags : Text :=
  let width := (listed.map fun flag => flag.shown.length).foldl max 0
  listed.flatMap fun flag =>
    letterColumn flag ++ Text.padEnd width flag.shown ++ "  " ++ summary false flag ++
      briefValues flag ++ "\n"

/-- The flags at length, with a blank line between two. -/
def longFlags : Text :=
  Text.join "\n" (listed.map fun flag =>
    letterColumn flag ++ flag.shown ++ "\n" ++ margin ++ summary true flag ++ "\n" ++
      longValues flag)

/-- The commands, one on a line. -/
def commands : Text :=
  "Commands:\n  call   Call a method\n  help   Print the description of an interface\n" ++
    "  info   Print information about a service\n"

/-- The help about flags. -/
def text (atLength : Bool) : Text :=
  "Call methods of varlink services and inspect their interfaces\n\n" ++
    Given.nothing.usage ++ "\n\nArguments:\n  [COMMAND]" ++
    (if atLength then "\n" ++ margin else "  ") ++ "The command to run: call, help or info\n\n" ++
    "Options:\n" ++ (if atLength then longFlags else briefFlags) ++ "\n" ++ commands

/-- What is said when nothing is asked for. -/
def bare : Text :=
  "Usage: varlink [OPTIONS] COMMAND [ARGUMENTS]...\n\n" ++ commands ++
    "\nRun 'varlink --help' for more information.\n"

end Help

end VarlinkClient
