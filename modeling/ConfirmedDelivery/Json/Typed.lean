import ConfirmedDelivery.Json.Value
import ConfirmedDelivery.Json.Fault

/-!
# Values of known types in JSON

How a JSON value is taken as a number, a text or a list of such, and how a map is written: keys that
are no strings become their texts where they have one. An integer is taken as a real number where
one is wanted, never the other way round.
-/

namespace ConfirmedDelivery.Json

/-- The integer, if it lies in the range. -/
def asInt? (low high : Int) : Json → Option Int
  | .integer i => if low ≤ i ∧ i ≤ high then some i else none
  | _ => none

/-- The nearest double precision number. -/
def asReal? : Json → Option Binary64
  | .integer i => some (Binary64.ofInt i)
  | .real x => some x
  | _ => none

/-- The nearest single precision number. -/
def asSingle? : Json → Option Binary64
  | .integer i => some (Binary64.ofRatioSingle (decide (i < 0)) i.natAbs 1)
  | .real x =>
    if x.isFinite then some (Binary64.ofRatioSingle x.negative x.units (twoPow 1074)) else some x
  | _ => none

def asBool? : Json → Option Bool
  | .boolean b => some b
  | _ => none

def asText? : Json → Option String
  | .text s => some s
  | _ => none

/-- A text of one character. -/
def asChar? : Json → Option Char
  | .text s =>
    match s.toList with
    | [c] => some c
    | _ => none
  | _ => none

/-- Null, or a value of the given kind. -/
def asOption? {α : Type} (item : Json → Option α) : Json → Option (Option α)
  | .null => some none
  | j => (item j).map some

/-- A list whose items are of one kind. -/
def asList? {α : Type} (item : Json → Option α) : Json → Option (List α)
  | .sequence js => js.mapM item
  | _ => none

/-- A mapping whose values are of one kind. -/
def asMapping? {α : Type} (item : Json → Option α) : Json → Option (List (String × α))
  | .mapping fields => fields.mapM (fun f => (item f.2).map (fun a => (f.1, a)))
  | _ => none

/-- One of the given variants: its name, or a mapping that gives null under its name. -/
def asVariant? {α : Type} (variants : List (String × α)) : Json → Option α
  | .text s => variants.lookup s
  | .mapping [(s, .null)] => variants.lookup s
  | _ => none

/-- A real number as a value; what is no number is null. -/
def ofReal (x : Binary64) : Json := if x.isFinite then .real x else .null

/-- An integer as a value, if it has 64 bits. -/
def ofInt (i : Int) : Except Fault Json :=
  if -(twoPow 63 : Int) ≤ i ∧ i < twoPow 64 then .ok (.integer i) else .error ⟨.numberOutOfRange, none⟩

/-- The name that a value has as the key of a map. -/
def key? : Json → Option String
  | .text s => some s
  | .integer i => some (toString i)
  | .boolean b => some (toString b)
  | .real x => if x.isFinite then some (NumberStyle.json.write x) else none
  | _ => none

/-- The map with the given entries. -/
def ofEntries (entries : List (Json × Json)) : Except Fault Json := do
  let fields ← entries.foldlM (fun fields e =>
    match key? e.1 with
    | some k => .ok (Dict.place k e.2 fields)
    | none => .error ⟨.keyNotText, none⟩) []
  .ok (.mapping fields)

end ConfirmedDelivery.Json
