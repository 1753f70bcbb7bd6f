/-
Colour.

A fragment of output is painted by its role: an escape sequence in front and a reset
behind.  A reset inside the fragment is followed by the opening sequence again, so that
the colour holds to the end.
-/
import VarlinkClient.Text.Basic

namespace VarlinkClient

/-- The role a fragment of output plays. -/
inductive Style
  | key
  | string
  | keyword
  | name
  | comment
  | label
  deriving DecidableEq, Repr

/-- When to colour. -/
inductive ColorChoice
  /-- Only when the output is a terminal. -/
  | auto
  | always
  | never
  deriving DecidableEq, Repr

namespace ColorChoice

/-- The choices there are. -/
def all : List ColorChoice :=
  [auto, always, never]

/-- How a choice is written. -/
def text : ColorChoice → Text
  | auto => "auto"
  | always => "always"
  | never => "never"

/-- Reads a choice, with or without regard to case. -/
def parse? (ignoreCase : Bool) (t : Text) : Option ColorChoice :=
  all.find? fun choice => choice.text = if ignoreCase then Text.asciiLower t else t

/-- Whether to colour an output that is, or is not, a terminal. -/
def resolve (choice : ColorChoice) (terminal : Bool) : Bool :=
  match choice with
  | auto => terminal
  | always => true
  | never => false

end ColorChoice

/-- How to paint: with escape sequences, or not at all. -/
inductive Palette
  | plain
  | colored
  deriving DecidableEq, Repr

namespace Palette

/-- Colours when asked to. -/
def ofBool (colored : Bool) : Palette :=
  if colored then .colored else .plain

/-- The number of the colour, or weight, of a role. -/
def code : Style → Text
  | .key => "36"
  | .string | .name => "35"
  | .keyword => "34"
  | .comment => "32"
  | .label => "1"

/-- The sequence that starts a colour. -/
def opening (style : Style) : Text :=
  '\x1b' :: '[' :: code style ++ ['m']

/-- The sequence that ends every colour. -/
def reset : Text :=
  ['\x1b', '[', '0', 'm']

/-- Starts the colour again after every reset. -/
def reopen (start : Text) : Text → Text
  | '\x1b' :: '[' :: '0' :: 'm' :: rest => reset ++ start ++ reopen start rest
  | c :: rest => c :: reopen start rest
  | [] => []

/-- The fragment in the colour of its role. -/
def paint (palette : Palette) (style : Style) (t : Text) : Text :=
  match palette with
  | .plain => t
  | .colored => opening style ++ reopen (opening style) t ++ reset

end Palette

end VarlinkClient
