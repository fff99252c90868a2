import ConfirmedDelivery.Dict
import ConfirmedDelivery.Json.Record
import ConfirmedDelivery.Json.Typed

/-!
# Attributes of a message

Named JSON values. Of several writes to a name the last one counts, but a write of nothing is no
write: `Attributes.add` skips the empty text, and `Attributes.put` skips null and what could not be
written. On the wire each value goes as a text.
-/

namespace ConfirmedDelivery

/-- Named JSON values, by ascending name. -/
structure Attributes where
  values : Dict String Json

namespace Attributes

/-- No attributes. -/
def empty : Attributes := ⟨∅⟩

/-- Attributes from pairs of texts, empty ones included. -/
def ofHeaders (headers : List (String × String)) : Attributes :=
  ⟨Dict.ofList (headers.map (fun h => (h.1, .text h.2)))⟩

/-- Sets a name to a text, unless the text is empty. -/
def add (a : Attributes) (name value : String) : Attributes :=
  if value.isEmpty then a else ⟨a.values.insert name (.text value)⟩

/-- Sets a name to a value, unless it is null or there is none. -/
def put (a : Attributes) (name : String) : Except Json.Fault Json → Attributes
  | .ok .null => a
  | .ok value => ⟨a.values.insert name value⟩
  | .error _ => a

/-- The value under a name. -/
def get? (a : Attributes) (name : String) : Option Json := a.values.get? name

/-- The value under a name, as a text. -/
def text? (a : Attributes) (name : String) : Option String := (a.get? name).map Json.plainText

/-- All values as texts. -/
def headers (a : Attributes) : Dict String String := a.values.mapValues (fun _ => Json.plainText)

/-- The number of attributes. -/
def size (a : Attributes) : Nat := a.values.size

def isEmpty (a : Attributes) : Bool := a.size == 0

/-- Whether two sets of attributes have the same names and equal values. -/
def same (a b : Attributes) : Bool := Json.sameFields a.values.entries b.values.entries

/-- The attributes as a JSON text. -/
def render (a : Attributes) : String := (Json.mapping a.values.entries).render

/-- Takes attributes off the front of a text, null values included. -/
def reader : Json.Reader Attributes := fun s =>
  match Json.skipSpace s with
  | '{' :: rest => do
    let member := fun (a : Attributes) name s => do
      let (value, s) ← Json.value (Json.depthLimit - 1) (← Json.colon s)
      .ok (⟨a.values.insert name value⟩, s)
    Json.members member (rest.length + 1) true empty rest
  | rest => Json.mismatch "a map" rest

/-- Reads attributes from a JSON text. -/
def read (text : String) : Except Json.Fault Attributes := Json.readAll reader text

end Attributes

end ConfirmedDelivery
