/-
The command `help`.

It prints the description of an interface, laid out for people.  That a service does not
know the interface is an answer, and printed as one.
-/
import VarlinkClient.Command.Arguments
import VarlinkClient.Description.Layout
import VarlinkClient.Run

namespace VarlinkClient

/-- What a service says about an interface, as it is printed. -/
def Introspection.layout (palette : Palette) : Introspection → Text
  | .description d => d.layout palette Description.defaultWidth
  | .remoteError name => "Error: " ++ name ++ "\n"

namespace InterfaceTarget

/-- Runs `help`. -/
def run (desk : Desk) (tokens : List Text) : Run :=
  match ofTokens tokens with
  | .error error => .complain (Command.help.reminder error) error.kind desk.outputs []
  | .ok .help => .print Command.help.helpText desk.outputs []
  | .ok (.run target) =>
    match desk.session.describe target.address target.interface with
    | (.error stop, visits) => ⟨.error stop, desk.outputs, visits⟩
    | (.ok introspection, visits) =>
      .print (introspection.layout desk.palette) desk.outputs visits

end InterfaceTarget

end VarlinkClient
