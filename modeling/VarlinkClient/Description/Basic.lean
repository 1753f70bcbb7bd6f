/-
Descriptions of interfaces.

An interface has a name and members: types, methods and errors, each with a signature.
The interface and its members may be documented by lines of text.
-/
import VarlinkClient.Text.Basic

namespace VarlinkClient

/-- What a member of an interface is. -/
inductive MemberKind
  | type
  | method
  | error
  deriving DecidableEq, Repr

/-- The word that declares a member. -/
def MemberKind.keyword : MemberKind → Text
  | type => "type"
  | method => "method"
  | error => "error"

/-- A member of an interface. -/
structure Member where
  /-- What is said about it, line by line. -/
  doc : List Text
  kind : MemberKind
  name : Text
  /-- What the member holds, in canonical spacing. -/
  signature : Text
  deriving DecidableEq, Repr

/-- The description of an interface. -/
structure Description where
  /-- What is said about the interface, line by line. -/
  doc : List Text
  name : Text
  members : List Member
  deriving DecidableEq, Repr

/-- Why a text is no description. -/
inductive DescriptionError
  /-- The first declaration is not that of an interface, or names none. -/
  | missingInterface
  /-- There is another declaration of an interface. -/
  | duplicateInterface
  /-- A line belongs to no declaration. -/
  | strayText (line : Text)
  /-- A parenthesis has no partner. -/
  | unbalanced (t : Text)
  /-- A member has no name. -/
  | missingName (declaration : Text)
  deriving DecidableEq, Repr

/-- The wording of an error. -/
def DescriptionError.message : DescriptionError → Text
  | missingInterface => "description does not start with an interface declaration"
  | duplicateInterface => "description declares more than one interface"
  | strayText line => "unexpected text outside a declaration: " ++ Text.inQuotes line
  | unbalanced t => "unbalanced parentheses in " ++ Text.inQuotes t
  | missingName declaration => "declaration " ++ Text.inQuotes declaration ++ " has no name"

/-- The names of the methods, in order. -/
def Description.methodNames (description : Description) : List Text :=
  (description.members.filter fun member => member.kind = .method).map Member.name

end VarlinkClient
