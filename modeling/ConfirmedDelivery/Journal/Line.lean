import ConfirmedDelivery.Journal.Logging
import ConfirmedDelivery.Json.Value

/-!
# Lines of the journal

An entry is shown on one line, as words or as a JSON object. In a line of words a text that might be
mistaken for something else stands in quotes; in an object numbers and truth values stay what they
are.
-/

namespace ConfirmedDelivery

namespace EntryValue

/-- The value in a line of words. -/
def words : EntryValue → String
  | .quoted s => Text.quoted s
  | v => v.text

/-- The value as JSON. -/
def json : EntryValue → Json
  | .plain s => .text s
  | .quoted s => .text s
  | .number n => .integer n
  | .real x => .real x
  | .flag b => .boolean b

end EntryValue

namespace Entry

/-- The entry without its fields of some names. -/
def without (e : Entry) (names : List String) : Entry :=
  { e with fields := e.fields.filter fun f => !names.contains f.1 }

/-- The entry as words: its level, its target, its message, and its fields with equals signs. -/
def words (e : Entry) : String :=
  e.level.name ++ " " ++ e.source.target ++ ": "
    ++ " ".intercalate (e.message :: e.fields.map fun f => f.1 ++ "=" ++ f.2.words)

/-- The entry as JSON, the message being the first of its fields. -/
def json (e : Entry) : Json :=
  .mapping [("level", .text e.level.name),
    ("fields", .mapping (("message", .text e.message) :: e.fields.map fun f => (f.1, f.2.json))),
    ("target", .text e.source.target)]

/-- The line in which an entry is shown. -/
def line (e : Entry) : LineFormat → String
  | .compact => e.words
  | .json => e.json.render

end Entry

end ConfirmedDelivery
