/-
The flags that stand before a command.

Most flags take a value, after `=` or as the next argument.  Five of them are settings:
they say what the environment or a file could say as well.
-/
import VarlinkClient.Text.Basic

namespace VarlinkClient

/-- A flag that stands before a command. -/
inductive Flag
  | configPath
  | resolver
  | timeout
  | logFilter
  | logFormat
  | color
  | complete
  | help
  | version
  deriving DecidableEq, Repr

namespace Flag

/-- The flags there are, in the order in which help lists them. -/
def all : List Flag :=
  [configPath, resolver, timeout, logFilter, logFormat, color, complete, help, version]

/-- The word of a flag. -/
def name : Flag → Text
  | configPath => "config-path"
  | resolver => "resolver"
  | timeout => "timeout"
  | logFilter => "log-filter"
  | logFormat => "log-format"
  | color => "color"
  | complete => "complete"
  | help => "help"
  | version => "version"

/-- The flag of a word. -/
def ofName? (t : Text) : Option Flag :=
  all.find? fun flag => flag.name = t

/-- The letter of a flag. -/
def letter? : Flag → Option Char
  | help => some 'h'
  | version => some 'V'
  | _ => none

/-- The flag of a letter. -/
def ofLetter? (c : Char) : Option Flag :=
  all.find? fun flag => flag.letter? = some c

/-- How a flag is written. -/
def spelling (flag : Flag) : Text :=
  "--" ++ flag.name

/-- What the value of a flag is called, when it takes one. -/
def valueName? : Flag → Option Text
  | configPath => some "PATH"
  | resolver => some "ADDRESS"
  | timeout => some "SECONDS"
  | logFilter => some "FILTER"
  | logFormat => some "FORMAT"
  | color => some "COLOR"
  | complete => some "WORD"
  | help | version => none

/-- A flag takes a value. -/
def takesValue (flag : Flag) : Bool :=
  flag.valueName?.isSome

/-- How a flag is written, with its value. -/
def shown (flag : Flag) : Text :=
  match flag.valueName? with
  | some value => flag.spelling ++ " <" ++ value ++ ">"
  | none => flag.spelling

/-- The value of a flag may begin with `-`. -/
def allowsHyphen (flag : Flag) : Bool :=
  flag = complete

/-- Help does not list a flag. -/
def isHidden (flag : Flag) : Bool :=
  flag = complete

/-- A flag sets a part of the configuration. -/
def isSetting : Flag → Bool
  | configPath | resolver | timeout | logFilter | logFormat => true
  | _ => false

end Flag

end VarlinkClient
