import ConfirmedDelivery.Text.Lowercase
import ConfirmedDelivery.Text.LowercaseForm
import ConfirmedDelivery.Text.Uppercase

/-!
# Names of types

The full name of a type is a path of segments with type arguments in angle brackets. Its short name
is the last segment of the path, without arguments.

In snake case hyphens and spaces become underscores, uppercase letters become lowercase ones, and an
underscore goes before an uppercase letter where a word begins: after a lowercase letter or a digit,
and between two capitals when the second one is followed by a lowercase letter. No such underscore is
written after an underscore. Everything else stays.
-/

namespace ConfirmedDelivery.Text

namespace TypePath

/-- What follows the last double colon, if there is one. -/
def lastSegment? : List Char → Option (List Char)
  | [] => none
  | c :: rest =>
    match lastSegment? rest with
    | some segment => some segment
    | none => if c = ':' ∧ rest.head? = some ':' then some rest.tail else none

/-- The short name of the type with the given full name. -/
def shortName (full : String) : String :=
  let path := full.toList.takeWhile (· ≠ '<')
  String.ofList ((lastSegment? path).getD path)

end TypePath

namespace SnakeCase

def isDigit (c : Char) : Bool := decide ('0' ≤ c ∧ c ≤ '9')

/-- Whether hyphens and spaces divide here. -/
def isDivider (c : Char) : Bool := c == '-' || c == ' '

/-- Whether a word begins at an uppercase letter between these neighbours. -/
def beginsWord (previous next : Option Char) : Bool :=
  match previous with
  | none => false
  | some p => isLowercase p || isDigit p || (isUppercase p && next.any isLowercase)

/-- What is written for a character between these neighbours, after a text that ends with `last`. -/
def written (previous next last : Option Char) (c : Char) : List Char :=
  if isDivider c then ['_']
  else if isUppercase c then
    if beginsWord previous next && last != some '_' then '_' :: lowercase c else lowercase c
  else [c]

/-- The snake case of the text that follows the character `previous`, written after a text that ends
with `last`. -/
def encode (previous last : Option Char) : List Char → List Char
  | [] => []
  | c :: rest =>
    let letters := written previous rest.head? last c
    letters ++ encode (some c) (letters.getLast?.or last) rest

end SnakeCase

/-- The snake case of a name. -/
def snakeCase (name : String) : String := String.ofList (SnakeCase.encode none none name.toList)

end ConfirmedDelivery.Text
