/-
Laying out the description of an interface for people.

Documentation is wrapped to a width, each line behind a `#`.  A member that is wider than
that has its signature spread over lines.  Keywords, names and comments are painted.
-/
import VarlinkClient.Description.Basic
import VarlinkClient.Description.Signature
import VarlinkClient.Palette
import VarlinkClient.Text.Wrap

namespace VarlinkClient.Description

/-- The width that descriptions are laid out to. -/
def defaultWidth : Nat :=
  70

/-- The lines of comment about one line of documentation. -/
def commentLines (width : Nat) (line : Text) : List Text :=
  if Text.trim line = [] then ["#"]
  else (Wrap.wrap (max (width - 2) 1) line).map fun piece => "# " ++ piece

/-- The lines of comment that documentation is shown as. -/
def docLines (palette : Palette) (width : Nat) (doc : List Text) : List Text :=
  (doc.flatMap (commentLines width)).map (palette.paint .comment)

/-- What stands between the name of a member and its signature. -/
def separator : MemberKind → Text
  | .method => ""
  | _ => " "

/-- A member on one line, without colour. -/
def memberLine (member : Member) : Text :=
  member.kind.keyword ++ " " ++ member.name ++ separator member.kind ++ member.signature

/-- The signature of a member, spread when the member is wider than the width. -/
def shownSignature (width : Nat) (member : Member) : Text :=
  if width < Width.text (memberLine member) then Signature.spread member.signature
  else member.signature

/-- A keyword and a name. -/
def heading (palette : Palette) (keyword name : Text) : Text :=
  palette.paint .keyword keyword ++ " " ++ palette.paint .name name

/-- The layout of a member. -/
def memberLayout (palette : Palette) (width : Nat) (member : Member) : Text :=
  heading palette member.kind.keyword member.name ++ separator member.kind ++
    shownSignature width member

/-- The lines of the layout of a description; a member may take several. -/
def layoutLines (palette : Palette) (width : Nat) (description : Description) : List Text :=
  docLines palette width description.doc ++ [heading palette "interface" description.name] ++
    description.members.flatMap fun member =>
      [[]] ++ docLines palette width member.doc ++ [memberLayout palette width member]

/-- The layout of a description. -/
def layout (palette : Palette) (width : Nat) (description : Description) : Text :=
  Text.join "\n" (layoutLines palette width description) ++ "\n"

end VarlinkClient.Description
