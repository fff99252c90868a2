import ConfirmedDelivery.Dict
import ConfirmedDelivery.Number.Style
import ConfirmedDelivery.Text.Quoted

/-!
# JSON values and their text

A number is an integer if it is written without point and exponent and fits 64 bits, with or without
a sign; every other number is a real one, and the two kinds are never equal. A mapping that is read has
its fields in ascending order of their names. Texts are compact: no blanks between the parts.
-/

namespace ConfirmedDelivery

/-- A JSON value. -/
inductive Json where
  | null
  | boolean (value : Bool)
  | integer (value : Int)
  | real (value : Binary64)
  | text (value : String)
  | sequence (items : List Json)
  | mapping (fields : List (String × Json))
deriving Inhabited

namespace Json

mutual

/-- Whether two values are equal, reals by value. -/
def same : Json → Json → Bool
  | .null, .null => true
  | .boolean a, .boolean b => a == b
  | .integer a, .integer b => a == b
  | .real a, .real b => a.same b
  | .text a, .text b => a == b
  | .sequence a, .sequence b => sameItems a b
  | .mapping a, .mapping b => sameFields a b
  | _, _ => false

def sameItems : List Json → List Json → Bool
  | [], [] => true
  | a :: as, b :: bs => same a b && sameItems as bs
  | _, _ => false

def sameFields : List (String × Json) → List (String × Json) → Bool
  | [], [] => true
  | (k, a) :: as, (l, b) :: bs => k == l && same a b && sameFields as bs
  | _, _ => false

end

/-- One character within a JSON string. -/
def escape (c : Char) : List Char :=
  if c = '\"' then ['\\', '\"']
  else if c = '\\' then ['\\', '\\']
  else if c = '\x08' then ['\\', 'b']
  else if c = '\x0c' then ['\\', 'f']
  else if c = '\n' then ['\\', 'n']
  else if c = '\r' then ['\\', 'r']
  else if c = '\t' then ['\\', 't']
  else if c < ' ' then '\\' :: 'u' :: (Text.paddedHex 4 c.toNat).toList
  else [c]

/-- A JSON string. -/
def textChars (s : String) : List Char := '\"' :: s.toList.flatMap escape ++ ['\"']

mutual

/-- The compact text of a value. -/
def chars : Json → List Char
  | .null => "null".toList
  | .boolean b => (if b then "true" else "false").toList
  | .integer i => (toString i).toList
  | .real x => (NumberStyle.json.write x).toList
  | .text s => textChars s
  | .sequence items => '[' :: itemChars items ++ [']']
  | .mapping fields => '{' :: fieldChars fields ++ ['}']

def itemChars : List Json → List Char
  | [] => []
  | [j] => chars j
  | j :: rest => chars j ++ ',' :: itemChars rest

def fieldChars : List (String × Json) → List Char
  | [] => []
  | [(k, j)] => textChars k ++ ':' :: chars j
  | (k, j) :: rest => textChars k ++ ':' :: chars j ++ ',' :: fieldChars rest

end

/-- The compact text of a value. -/
def render (j : Json) : String := String.ofList j.chars

/-- The value as a text: a string is its own text, any other value is rendered. -/
def plainText : Json → String
  | .text s => s
  | j => j.render

end Json

end ConfirmedDelivery
