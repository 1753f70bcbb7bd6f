/-
Completing words in a shell.

Given the words before it, a word that is being typed has candidates: commands and
options, or names that have to be looked up.  A look-up that fails leaves no candidates.
Only candidates that begin with the word are offered.

What is looked up depends on the word and on the results of earlier look-ups, so the
candidates come with the look-ups that were made.
-/
import VarlinkClient.Command.Arguments

namespace VarlinkClient

/-- Something to look up. -/
inductive Lookup
  /-- The interfaces of a service, or of all there are. -/
  | interfaces (address : Option Address)
  /-- The methods of an interface. -/
  | methods (address : Option Address) (interface : Text)
  deriving DecidableEq, Repr

/-- Where names are looked up; nothing is found when a look-up fails. -/
abbrev Catalog := Lookup → Option (List Text)

namespace Completion

/-- Candidates, and the look-ups that led to them. -/
abbrev Candidates := List Text × List Lookup

/-- The options that stand before a command. -/
def globalFlags : List Text :=
  ["--help", "--version", "--color", "--config-path", "--resolver", "--timeout",
    "--log-filter", "--log-format"]

/-- What is offered where the parameters of a call can stand. -/
def placeholder : Text :=
  "'\x7b\x7d'"

/-- A word, with the address it may begin with. -/
structure Word where
  /-- The address as it was typed, and the slash after it. -/
  front : Text
  address : Option Address
  /-- What follows. -/
  name : Text
  deriving DecidableEq, Repr

/-- Splits a word; none when what should be an address is not one. -/
def Word.split? (word : Text) : Option Word :=
  match Text.splitLast '/' word with
  | none => some ⟨[], none, word⟩
  | some (before, name) =>
    match Address.parse before with
    | .ok address => some ⟨before ++ "/", some address, name⟩
    | .error _ => none

/-- The word is an option, or begins like one. -/
def isOption (word : Text) : Bool :=
  word.head? = some '-'

/-- The options of a command. -/
def ofOptions (command : Command) : List Text :=
  command.schema.map fun spec => "--" ++ spec.long

/-- The candidates for the first word. -/
def topLevel (word : Text) : List Text :=
  if isOption word then globalFlags else Command.all.map Command.name

/-- The interfaces, each between `front` and `back`. -/
def ofInterfaces (catalog : Catalog) (word : Word) (back : Text) : Candidates :=
  let lookup := Lookup.interfaces word.address
  (((catalog lookup).getD []).map fun interface => word.front ++ interface ++ back, [lookup])

/-- The interface that a name begins with: what stands before its last dot. -/
def interfaceOf? (name : Text) : Option Text :=
  (Text.splitLast '.' name).map Prod.fst

/-- The candidates for the target of a call.  Once a word names an interface with methods,
those are offered; else interfaces are. -/
def ofMembers (catalog : Catalog) (word : Text) : Candidates :=
  match Word.split? word with
  | none => ([], [])
  | some w =>
    match interfaceOf? w.name with
    | none => ofInterfaces catalog w "."
    | some interface =>
      let lookup := Lookup.methods w.address interface
      match (catalog lookup).getD [] with
      | [] =>
        let (found, more) := ofInterfaces catalog w "."
        (found, lookup :: more)
      | methods =>
        (methods.map fun method => w.front ++ interface ++ "." ++ method, [lookup])

/-- The candidates after `call` and these tokens. -/
def afterCall (catalog : Catalog) (tokens : List Text) (word : Text) : Candidates :=
  if isOption word then (ofOptions .call, [])
  else match CallRequest.parse tokens with
    | .ok (.run request) => (if request.parameters = none then [placeholder] else [], [])
    | _ => ofMembers catalog word

/-- The candidates after `help` and these tokens. -/
def afterHelp (catalog : Catalog) (tokens : List Text) (word : Text) : Candidates :=
  if isOption word then (ofOptions .help, [])
  else match Options.parse Command.help.schema tokens with
    | .ok options =>
      if !options.showHelp && options.positionals = [] then
        match Word.split? word with
        | some w => ofInterfaces catalog w []
        | none => ([], [])
      else ([], [])
    | .error _ => ([], [])

/-- The candidates after a command, if there is one, and its tokens so far. -/
def candidates (catalog : Catalog) (command : Option Text) (tokens : List Text) (word : Text) :
    Candidates :=
  match command with
  | none => (topLevel word, [])
  | some name =>
    match Command.ofName? name with
    | some .call => afterCall catalog tokens word
    | some .help => afterHelp catalog tokens word
    | some .info | none => ([], [])

/-- The candidates that are offered: those that begin with the word. -/
def offered (catalog : Catalog) (command : Option Text) (tokens : List Text) (word : Text) :
    Candidates :=
  let (found, lookups) := candidates catalog command tokens word
  (found.filter word.isPrefixOf, lookups)

end Completion

end VarlinkClient
