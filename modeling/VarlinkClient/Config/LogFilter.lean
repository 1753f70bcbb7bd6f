/-
Filters for log lines.

A filter is a row of directives with commas between them.  A directive is a level, or a
target, or a span in brackets that may name fields in braces; a target and a span may be
followed by `=` and a level.  A run only has to know whether a filter is one.

A pattern that the value of a field has to match is not looked into.
-/
import VarlinkClient.Text.Alphanumeric
import VarlinkClient.Text.Blank

namespace VarlinkClient.LogFilter

/-- Why a text is no filter. -/
inductive Fault
  /-- A level belongs here. -/
  | level
  /-- This is no directive. -/
  | directive
  deriving DecidableEq, Repr

/-- The wording of a fault. -/
def Fault.message : Fault → Text
  | level =>
    "error parsing level filter: expected one of \"off\", \"error\", \"warn\", \"info\", " ++
      "\"debug\", \"trace\", or a number 0-5"
  | directive => "invalid filter directive"

/-- The names of the levels. -/
def levels : List Text :=
  ["off", "error", "warn", "info", "debug", "trace"]

/-- A level: a name in letters of either case, or a number up to 5. -/
def isLevel (t : Text) : Bool :=
  Text.asciiLower t ∈ levels || (Text.natural? t).any fun n => n ≤ 5

/-- The shape of a directive: the level at its end, if there is one. -/
abbrev Shape := Except Fault (Option Text)

/-- Reads what follows a span: nothing, or a level. -/
def afterSpan : Text → Shape
  | [] => .ok none
  | '=' :: level => .ok (some level)
  | _ => .error .directive

/-- Reads the fields of a span after their brace. -/
def afterBrace (t : Text) : Shape :=
  match t.dropWhile (· ≠ '\x7d') with
  | '\x7d' :: ']' :: rest => if t.head? = some '\x7d' then .error .directive else afterSpan rest
  | _ => .error .directive

/-- Reads a span after its bracket. -/
def afterBracket (t : Text) : Shape :=
  match t.dropWhile fun c => c ≠ ']' && c ≠ '\x7b' with
  | ']' :: rest => afterSpan rest
  | '\x7b' :: rest => afterBrace rest
  | _ => .error .directive

/-- A character that a target can begin with. -/
def startsTarget (c : Char) : Bool :=
  isAlphanumeric c || c = '-' || c = ':' || c = '_'

/-- Reads a directive without blanks at its ends. -/
def shape (t : Text) : Shape :=
  match t with
  | '[' :: rest => afterBracket rest
  | [] => .error .directive
  | c :: _ =>
    if !startsTarget c then .error .directive
    else match t.dropWhile fun c => c ≠ '=' && c ≠ '[' with
      | '[' :: rest => afterBracket rest
      | '=' :: level => .ok (some level)
      | _ => .ok none

/-- Looks at one directive.  Blanks at its ends do no harm unless it has a level after `=`, for
which they are part of the level. -/
def checkDirective (t : Text) : Except Fault Unit :=
  let inner := Text.trim t
  match shape inner with
  | .error fault => .error fault
  | .ok none => .ok ()
  | .ok (some level) =>
    if inner = t && (level = [] || isLevel level) then .ok () else .error .level

/-- Looks at directives in order. -/
def checkAll : List Text → Except Fault Unit
  | [] => .ok ()
  | t :: rest =>
    match checkDirective t with
    | .error fault => .error fault
    | .ok () => checkAll rest

/-- Looks at a filter.  Nothing between two commas is no directive. -/
def check (t : Text) : Except Fault Unit :=
  checkAll ((Text.splitOn (· = ',') t).filter fun directive => directive ≠ [])

end VarlinkClient.LogFilter
