/-
The configuration of a run.

It tells where the resolver is, how long to wait for a reply, and what is logged in
which form.  Every part has a default.
-/
import VarlinkClient.Address

namespace VarlinkClient

/-- The form of log lines. -/
inductive LogFormat
  /-- One line of text for each event. -/
  | compact
  /-- One JSON object for each event. -/
  | json
  deriving DecidableEq, Repr

namespace LogFormat

/-- The forms there are. -/
def all : List LogFormat :=
  [compact, json]

/-- The name of a form. -/
def text : LogFormat → Text
  | compact => "compact"
  | json => "json"

/-- The form of a name, in the very letters. -/
def ofName? (t : Text) : Option LogFormat :=
  all.find? fun format => format.text = t

/-- The form of a name, in letters of either case. -/
def parse? (t : Text) : Option LogFormat :=
  ofName? (Text.asciiLower t)

end LogFormat

/-- The configuration of a run. -/
structure Config where
  /-- Where the resolver listens. -/
  resolver : Address
  /-- For how many seconds to wait for a reply; without a number, for ever. -/
  timeout : Option Nat
  /-- Which events are logged. -/
  logFilter : Text
  /-- In which form they are logged. -/
  logFormat : LogFormat
  deriving DecidableEq, Repr

namespace Config

/-- The configuration of a run for which nothing is configured. -/
def default : Config :=
  ⟨.unix "/run/org.varlink.resolver", none, "warn", .compact⟩

/-- For how many milliseconds to wait for a reply. -/
def limit (config : Config) : Option Nat :=
  config.timeout.map (· * 1000)

end Config

end VarlinkClient
