import ConfirmedDelivery.Journal.Event
import ConfirmedDelivery.Text.Casing

/-!
# Logging

How the journal is shown: the name of the service, the level from which events are shown, and the form
of a line.
-/

namespace ConfirmedDelivery

/-- The form of a log line. -/
inductive LineFormat where
  /-- One line of words. -/
  | compact
  /-- One JSON object. -/
  | json
deriving DecidableEq

namespace LineFormat

def name : LineFormat → String
  | .compact => "Compact"
  | .json => "Json"

/-- The form unless another one is asked for. -/
def standard : LineFormat := .compact

/-- The form with that name, in any case; the standard one if there is none. -/
def read (text : String) : LineFormat :=
  let name := Text.toLower text
  if name = "json" ∨ name = "jsonl" then .json else standard

end LineFormat

/-- How the journal is shown. -/
structure Logging where
  service : String
  level : String
  format : LineFormat
deriving DecidableEq

namespace Logging

def standard : Logging := ⟨"unknown", "info", .standard⟩

/-- What is told when logging begins: the first one to begin it tells so, a later one changes
nothing. -/
def begin (l : Logging) (begun : Bool) : Option Event :=
  if begun then none else some (.loggingReady l.service)

end Logging

end ConfirmedDelivery
