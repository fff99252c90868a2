import ConfirmedDelivery.Number.Style
import ConfirmedDelivery.Text.Quoted

/-!
# What can be wrong with a JSON text

A fault has a reason and, unless it arose while writing, the place where reading stopped: the line,
counted from one, and the number of bytes read on that line.
-/

namespace ConfirmedDelivery.Json

/-- A value found where one of another kind was wanted. -/
inductive Found where
  | null
  | boolean (value : Bool)
  | integer (value : Int)
  | real (value : Binary64)
  | text (value : String)
  | sequence
  | mapping

def Found.message : Found → String
  | .null => "null"
  | .boolean b => "boolean `" ++ toString b ++ "`"
  | .integer i => "integer `" ++ toString i ++ "`"
  | .real x => "floating point `" ++ NumberStyle.json.write x ++ "`"
  | .text s => "string " ++ Text.quoted s
  | .sequence => "sequence"
  | .mapping => "map"

/-- Why a text is not the value that was wanted. -/
inductive Reason where
  | endInValue
  | endInObject
  | endInList
  | endInText
  | expectedValue
  | expectedWord
  | expectedColon
  | expectedCommaOrBrace
  | expectedCommaOrBracket
  | keyNotText
  | trailingComma
  | trailingCharacters
  | invalidNumber
  | numberOutOfRange
  | invalidEscape
  | loneSurrogate
  | unfinishedSurrogate
  | controlCharacter
  | tooDeep
  | wrongType (found : Found) (expected : String)
  | wrongValue (value : Int) (expected : String)
  | unknownVariant (name : String) (known : List String)
  | duplicateField (name : String)

def Reason.message : Reason → String
  | .endInValue => "EOF while parsing a value"
  | .endInObject => "EOF while parsing an object"
  | .endInList => "EOF while parsing a list"
  | .endInText => "EOF while parsing a string"
  | .expectedValue => "expected value"
  | .expectedWord => "expected ident"
  | .expectedColon => "expected `:`"
  | .expectedCommaOrBrace => "expected `,` or `\x7d`"
  | .expectedCommaOrBracket => "expected `,` or `]`"
  | .keyNotText => "key must be a string"
  | .trailingComma => "trailing comma"
  | .trailingCharacters => "trailing characters"
  | .invalidNumber => "invalid number"
  | .numberOutOfRange => "number out of range"
  | .invalidEscape => "invalid escape"
  | .loneSurrogate => "lone leading surrogate in hex escape"
  | .unfinishedSurrogate => "unexpected end of hex escape"
  | .controlCharacter => "control character (\\u0000-\\u001F) found while parsing a string"
  | .tooDeep => "recursion limit exceeded"
  | .wrongType found expected => "invalid type: " ++ found.message ++ ", expected " ++ expected
  | .wrongValue i expected =>
    "invalid value: integer `" ++ toString i ++ "`, expected " ++ expected
  | .unknownVariant name known =>
    "unknown variant `" ++ name ++ "`, expected one of "
      ++ ", ".intercalate (known.map (fun k => "`" ++ k ++ "`"))
  | .duplicateField name => "duplicate field `" ++ name ++ "`"

/-- A line and the number of bytes read on it. -/
structure Place where
  line : Nat
  column : Nat
deriving DecidableEq

namespace Place

/-- The place before the first character. -/
def start : Place := ⟨1, 0⟩

/-- The place after one more character. -/
def after (p : Place) (c : Char) : Place :=
  if c = '\n' then ⟨p.line + 1, 0⟩ else ⟨p.line, p.column + c.utf8Size⟩

/-- The place after the first `bytes` bytes of a text, or at its end. -/
def advance (p : Place) : Nat → List Char → Place
  | _, [] => p
  | bytes, c :: rest =>
    if bytes = 0 then p
    else if bytes < c.utf8Size then ⟨p.line, p.column + bytes⟩
    else advance (p.after c) (bytes - c.utf8Size) rest

end Place

/-- A reason and where it arose. -/
structure Fault where
  reason : Reason
  place : Option Place

namespace Fault

/-- The fault as a sentence. -/
def message (f : Fault) : String :=
  match f.place with
  | none => f.reason.message
  | some p =>
    f.reason.message ++ " at line " ++ toString p.line ++ " column " ++ toString p.column

/-- The fault with its parts named. -/
def details (f : Fault) : String :=
  let p := f.place.getD ⟨0, 0⟩
  "Error(" ++ Text.quoted f.reason.message ++ ", line: " ++ toString p.line
    ++ ", column: " ++ toString p.column ++ ")"

end Fault

end ConfirmedDelivery.Json
