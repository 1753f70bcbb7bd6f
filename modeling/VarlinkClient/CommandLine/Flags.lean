/-
Reading the flags of a command line.

Arguments are read from left to right.  The value of a flag, and the command, are held
until the next flag or the end, and looked at only then; so an argument that nobody
expects is told before a wrong value directly in front of it.  After `--` no argument is
a flag.
-/
import VarlinkClient.CommandLine.Usage
import VarlinkClient.Text.Utf8

namespace VarlinkClient

/-- What the flags of a command line say. -/
structure Flags where
  configPath : Option Text
  resolver : Option Text
  timeout : Option Nat
  logFilter : Option Text
  logFormat : Option Text
  /-- When to colour. -/
  color : Option ColorChoice
  /-- The word to complete, when that is what is asked for. -/
  complete : Option Text
  /-- The name of the command. -/
  command : Option Text
  deriving DecidableEq, Repr

namespace Flags

/-- No flags at all. -/
def none : Flags :=
  ⟨.none, .none, .none, .none, .none, .none, .none, .none⟩

/-- Nothing is asked for. -/
def isBare (flags : Flags) : Bool :=
  flags.command.isNone && flags.complete.isNone

/-- A text in bytes. -/
def readText (bytes : Bytes) : Except UsageError Text :=
  match Utf8.decode? bytes with
  | some t => .ok t
  | .none => .error .notText

/-- The flags with the value of one more. -/
def put (flags : Flags) (flag : Flag) (value : Bytes) : Except UsageError Flags :=
  match flag with
  | .configPath => (readText value).map fun t => { flags with configPath := some t }
  | .resolver => (readText value).map fun t => { flags with resolver := some t }
  | .timeout =>
    match readText value with
    | .error error => .error error
    | .ok t =>
      match Text.whole t with
      | .ok n => .ok { flags with timeout := some n }
      | .error error => .error (.badNumber .timeout t error)
  | .logFilter => (readText value).map fun t => { flags with logFilter := some t }
  | .logFormat => (readText value).map fun t => { flags with logFormat := some t }
  | .color =>
    match (Utf8.decode? value).bind (ColorChoice.parse? false) with
    | some choice => .ok { flags with color := some choice }
    | .none => .error (.badChoice .color (Utf8.decodeLossy value))
  | .complete => (readText value).map fun t => { flags with complete := some t }
  | .help | .version => .ok flags

end Flags

/-- Why flags are not read to the end. -/
inductive FlagStop
  /-- Help is asked for. -/
  | help (atLength : Bool)
  /-- The version is asked for. -/
  | version
  /-- The flags are refused. -/
  | refused (error : UsageError)
  deriving DecidableEq, Repr

/-- What was read and not looked at yet. -/
inductive Held
  | nothing
  /-- A flag, and its value once that has come. -/
  | flag (flag : Flag) (value : Option Bytes)
  /-- The command. -/
  | command (argument : Bytes)
  deriving DecidableEq, Repr

/-- A reader of flags. -/
structure FlagReader where
  /-- What the flags say so far. -/
  flags : Flags
  /-- What was given so far. -/
  given : Given
  /-- What is to be looked at. -/
  held : Held
  deriving DecidableEq, Repr

namespace FlagReader

/-- Nothing read yet. -/
def start : FlagReader :=
  ⟨.none, .nothing, .nothing⟩

/-- The flag whose value comes next. -/
def awaits? (reader : FlagReader) : Option Flag :=
  match reader.held with
  | .flag flag none => some flag
  | _ => none

/-- The command has been read. -/
def hasCommand (reader : FlagReader) : Bool :=
  match reader.held with
  | .command _ => true
  | _ => reader.given.command

/-- Looks at the value of a flag.  The flag counts as given even if its value is wrong, but not
if it comes again. -/
def accept (reader : FlagReader) (flag : Flag) (value : Bytes) : FlagReader × Option UsageError :=
  let given := reader.given
  if flag ∈ given.flags then
    ({ reader with given := { given with flags := given.flags.erase flag } }, some (.repeated flag))
  else
    let reader := { reader with given := given.withFlag flag }
    match reader.flags.put flag value with
    | .ok flags => ({ reader with flags }, none)
    | .error error => (reader, some error)

/-- Looks at what is held. -/
def settle (reader : FlagReader) : FlagReader × Option UsageError :=
  let free := { reader with held := .nothing }
  match reader.held with
  | .nothing => (free, none)
  | .flag flag none => (free, some (.missingValue flag))
  | .flag flag (some value) => free.accept flag value
  | .command argument =>
    let free := { free with given := { free.given with command := true } }
    match Flags.readText argument with
    | .ok t => ({ free with flags := { free.flags with command := some t } }, none)
    | .error error => (free, some error)

/-- Looks at what is held, and goes on with `next` if nothing is wrong with it. -/
def settleThen {α : Type} (reader : FlagReader) (next : FlagReader → Except FlagStop α) :
    Except FlagStop α :=
  match reader.settle with
  | (_, some error) => .error (.refused error)
  | (reader, none) => next reader

/-! ### Single arguments -/

/-- Takes an argument that is no flag. -/
def takeCommand (reader : FlagReader) (argument : Bytes) : Except FlagStop FlagReader :=
  if reader.hasCommand then
    .error (.refused (.unexpectedArgument (Utf8.decodeLossy argument)))
  else reader.settleThen fun reader => .ok { reader with held := .command argument }

/-- Takes a flag that is known. -/
def takeFlag (reader : FlagReader) (flag : Flag) (value : Option Bytes) :
    Except FlagStop FlagReader :=
  match flag, value with
  | .help, none => reader.settleThen fun _ => .error (.help true)
  | .version, none => reader.settleThen fun _ => .error .version
  | .help, some value | .version, some value =>
    .error (.refused
      (.unwantedValue flag (Utf8.decodeLossy value) (reader.given.withFlag flag)))
  | _, none => reader.settleThen fun reader => .ok { reader with held := .flag flag none }
  | _, some value => reader.settleThen fun reader =>
    match reader.accept flag value with
    | (reader, none) => .ok reader
    | (_, some error) => .error (.refused error)

/-- Takes what follows `--` in an argument. -/
def takeWord (reader : FlagReader) (word : Bytes) : Except FlagStop FlagReader :=
  let name := word.takeWhile (· ≠ 0x3D)
  match (Utf8.decode? name).bind Flag.ofName? with
  | some flag => reader.takeFlag flag ((word.dropWhile (· ≠ 0x3D)).tail?)
  | none => .error (.refused (.ofWord (Utf8.decodeLossy name) reader.settle.1.given))

/-- Takes what follows `-` in an argument.  The letters that are known end the reading. -/
def takeLetters (reader : FlagReader) (letters : Bytes) : Except FlagStop FlagReader :=
  match letters with
  | [] => .ok reader
  | b :: rest =>
    match Utf8.readChar b rest with
    | .error _ => .error (.refused (.unknownLetter (Utf8.decodeLossy letters)))
    | .ok (c, _) =>
      match Flag.ofLetter? c with
      | some .help => reader.settleThen fun _ => .error (.help false)
      | some .version => reader.settleThen fun _ => .error .version
      | _ => .error (.refused (.unknownLetter [c]))

/-- An argument that begins like a flag. -/
def looksLikeFlag : Bytes → Bool
  | 0x2D :: _ :: _ => true
  | _ => false

/-- Takes an argument other than `--` that stands before any `--`. -/
def take (reader : FlagReader) (argument : Bytes) : Except FlagStop FlagReader :=
  match reader.awaits? with
  | some flag =>
    if flag.allowsHyphen || !looksLikeFlag argument then
      .ok { reader with held := .flag flag (some argument) }
    else takeFlagLike argument
  | none => if looksLikeFlag argument then takeFlagLike argument else reader.takeCommand argument
where
  /-- Takes an argument that begins like a flag. -/
  takeFlagLike : Bytes → Except FlagStop FlagReader
    | 0x2D :: 0x2D :: word => reader.takeWord word
    | 0x2D :: letters => reader.takeLetters letters
    | argument => reader.takeCommand argument

/-! ### All arguments -/

/-- Takes arguments that follow `--`. -/
def takeCommands (reader : FlagReader) : List Bytes → Except FlagStop FlagReader
  | [] => .ok reader
  | argument :: rest =>
    match reader.takeCommand argument with
    | .error stop => .error stop
    | .ok reader => reader.takeCommands rest

/-- `--` ends the flags here, unless it is a value. -/
def endsFlags (reader : FlagReader) (argument : Bytes) : Bool :=
  argument = [0x2D, 0x2D] && !(reader.awaits?.any Flag.allowsHyphen)

/-- Takes arguments. -/
def takeAll (reader : FlagReader) : List Bytes → Except FlagStop FlagReader
  | [] => .ok reader
  | argument :: rest =>
    if reader.endsFlags argument then reader.takeCommands rest
    else match reader.take argument with
      | .error stop => .error stop
      | .ok reader => reader.takeAll rest

end FlagReader

namespace Flags

/-- Reads the arguments after the name of the program. -/
def read (arguments : List Bytes) : Except FlagStop Flags :=
  match FlagReader.start.takeAll arguments with
  | .error stop => .error stop
  | .ok reader => reader.settleThen fun reader => .ok reader.flags

end Flags

end VarlinkClient
