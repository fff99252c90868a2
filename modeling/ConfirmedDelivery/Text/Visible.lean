/-!
# What can be seen of a text

On a terminal a text may hold control characters, and sequences that begin with an escape character
and steer the terminal. What can be seen is the rest: printed characters, line ends and tabs.
-/

namespace ConfirmedDelivery.Text

namespace Visible

/-- Where a text stands. -/
inductive Place where
  /-- Outside of sequences. -/
  | plain
  /-- After an escape character. -/
  | escape
  /-- In a short sequence, which ends at its first letter, digit or like sign. -/
  | short
  /-- In a control sequence, which ends at its first letter or like sign. -/
  | control
  /-- In a command, which also ends with a bell. -/
  | command
  /-- Before the letter that begins the data of a device. -/
  | device
  /-- In a string that ends with the string terminator. -/
  | data
deriving DecidableEq

/-- Whether a character is one of the controls that are printed: line ends, feeds and tabs. -/
def isLayout (c : Char) : Bool := c ∈ ['\t', '\n', '\x0c', '\r']

/-- Whether a character is printed outside of sequences. -/
def isPrinted (c : Char) : Bool := isLayout c || (' ' ≤ c && c != '\x7f')

/-- Whether one of the bytes of a character is the string terminator. -/
def holdsTerminator (c : Char) : Bool :=
  decide (0x80 ≤ c.toNat) && c.toString.toUTF8.data.toList.contains 0x9C

/-- The place after the character that follows an escape character. -/
def afterEscape (c : Char) : Place :=
  if c = '[' then .control
  else if c = ']' then .command
  else if c = 'P' then .device
  else if c ∈ ['X', '^', '_'] then .data
  else if ' ' ≤ c ∧ c ≤ '/' then .short
  else if '0' ≤ c ∧ c ≤ '~' then .plain
  else .escape

/-- The place after a character that steers nothing by itself. Line ends and tabs are printed where a
sequence is not done, and end it; data are passed over whatever they are. -/
def after (place : Place) (c : Char) : Place :=
  match place with
  | .plain => .plain
  | .escape => if isLayout c then .plain else afterEscape c
  | .short => if isLayout c || ('0' ≤ c && c ≤ '~') then .plain else .short
  | .control => if isLayout c || ('@' ≤ c && c ≤ '~') then .plain else .control
  | .command => if c = '\x07' then .plain else .command
  | .device => if '@' ≤ c ∧ c ≤ '~' then .data else .device
  | .data => if holdsTerminator c then .plain else .data

/-- Whether a character that steers nothing by itself is printed. -/
def prints (place : Place) (c : Char) : Bool :=
  match place with
  | .plain => isPrinted c
  | .escape => isLayout c
  | .short => isLayout c
  | .control => isLayout c
  | _ => false

/-- What can be seen from a place on. An escape character begins a sequence wherever it stands, and two
control characters end whatever has begun. -/
def seen (place : Place) : List Char → List Char
  | [] => []
  | c :: rest =>
    if c = '\x1b' then seen .escape rest
    else if c = '\x18' ∨ c = '\x1a' then seen .plain rest
    else if prints place c then c :: seen (after place c) rest
    else seen (after place c) rest

end Visible

/-- What can be seen of a text. -/
def visible (text : String) : String := String.ofList (Visible.seen .plain text.toList)

end ConfirmedDelivery.Text
