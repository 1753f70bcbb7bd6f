/-
Laying out a JSON object for people.

Every item and member has a line of its own, indented by two blanks for each container
around it; empty containers stay on their line.  Keys and strings are painted.
-/
import VarlinkClient.Json.Printer
import VarlinkClient.Palette

namespace VarlinkClient.Json

/-- The blanks in front of a line inside `depth` containers. -/
def indent (depth : Nat) : Text :=
  List.replicate (2 * depth) ' '

mutual

/-- The layout of a value inside `depth` containers. -/
def Value.layout (palette : Palette) (depth : Nat) : Value → Text
  | .array [] => "[]"
  | .array (item :: items) =>
    "[\n" ++ itemsLayout palette (depth + 1) (item :: items) ++ "\n" ++ indent depth ++ "]"
  | .object [] => "\x7b\x7d"
  | .object (member :: members) =>
    "\x7b\n" ++ membersLayout palette (depth + 1) (member :: members) ++ "\n" ++ indent depth ++
      "\x7d"
  | .string t => palette.paint .string (quote t)
  | .null => Value.text .null
  | .bool b => Value.text (.bool b)
  | .number n => Value.text (.number n)

/-- The lines of the items of an array. -/
def itemsLayout (palette : Palette) (depth : Nat) : List Value → Text
  | [] => []
  | [item] => indent depth ++ item.layout palette depth
  | item :: items =>
    indent depth ++ item.layout palette depth ++ ",\n" ++ itemsLayout palette depth items

/-- The lines of the members of an object. -/
def membersLayout (palette : Palette) (depth : Nat) : List (Text × Value) → Text
  | [] => []
  | [(key, value)] =>
    indent depth ++ palette.paint .key (quote key) ++ ": " ++ value.layout palette depth
  | (key, value) :: members =>
    indent depth ++ palette.paint .key (quote key) ++ ": " ++ value.layout palette depth ++
      ",\n" ++ membersLayout palette depth members

end

/-- The layout of the parameters of a reply.  Absent ones are an empty object; anything but
an object is refused, with what is to be said about it. -/
def layoutParameters (palette : Palette) : Option Value → Except Text Text
  | none => .ok "\x7b\x7d"
  | some (.object members) => .ok (Value.layout palette 0 (.object members))
  | some value => .error ("reply parameters must be an object, found " ++ value.kindName)

end VarlinkClient.Json
