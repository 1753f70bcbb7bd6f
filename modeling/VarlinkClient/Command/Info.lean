/-
The command `info`.

It prints what a service says about itself, leaving out what is empty, and the interfaces
that it implements.
-/
import VarlinkClient.Command.Arguments
import VarlinkClient.Run

namespace VarlinkClient

namespace ServiceInfo

/-- A field with its label, unless it is empty. -/
def fieldLine (palette : Palette) (label value : Text) : Text :=
  if value = [] then [] else palette.paint .label label ++ " " ++ value ++ "\n"

/-- What a service says about itself, as it is printed. -/
def layout (palette : Palette) (info : ServiceInfo) : Text :=
  fieldLine palette "Vendor:" info.vendor ++ fieldLine palette "Product:" info.product ++
    fieldLine palette "Version:" info.version ++ fieldLine palette "URL:" info.url ++
    palette.paint .label "Interfaces:" ++ "\n" ++
    info.interfaces.flatMap fun interface => ' ' :: ' ' :: interface ++ ['\n']

end ServiceInfo

namespace Address

/-- Prints what an answer says about its service. -/
def printInfo (desk : Desk) (answer : Answer) (visits : List Visit) : Run :=
  match answer.error with
  | some name =>
    .complain ("Call failed with error: " ++ name) .remoteError desk.outputs visits
  | none =>
    match answer.serviceInfo Method.serviceInfo with
    | .error failure => .fail failure desk.outputs visits
    | .ok info => .print (info.layout desk.palette) desk.outputs visits

/-- Runs `info`. -/
def run (desk : Desk) (tokens : List Text) : Run :=
  match ofTokens tokens with
  | .error error => .complain (Command.info.reminder error) error.kind desk.outputs []
  | .ok .help => .print Command.info.helpText desk.outputs []
  | .ok (.run address) =>
    match desk.session.ask address Method.serviceInfo none with
    | (.error stop, visits) => ⟨.error stop, desk.outputs, visits⟩
    | (.ok answer, visits) => printInfo desk answer visits

end Address

end VarlinkClient
