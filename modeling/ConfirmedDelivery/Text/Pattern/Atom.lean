import ConfirmedDelivery.Number.Numeral
import ConfirmedDelivery.Text.Casing

/-!
# Parts of a pattern

A pattern is a regular expression; here it only matters whether it can be matched with. Its smallest
parts are characters, dots, escapes and edges, and how they are read depends on the mode that holds at
their place.

Nothing is known here of characters beyond ASCII but their numbers. So what needs to know more about
them, a letter in both cases or a class such as all digits, is refused unless the pattern is one of
bytes; and then it may not ask for bytes beyond ASCII, since a text has none by themselves.
-/

namespace ConfirmedDelivery.Text.Pattern

/-- How a pattern is read from some place on. -/
structure Mode where
  /-- Blanks and comments say nothing. -/
  spaced : Bool
  /-- A letter stands for both of its cases. -/
  caseless : Bool
  /-- The pattern is one of characters and not of bytes. -/
  unicode : Bool
deriving DecidableEq

/-- What follows the blanks and comments at the front; whether a comment has begun is told. -/
def dropBlanks : Bool → List Char → List Char
  | _, [] => []
  | true, c :: rest => dropBlanks (c != '\n') rest
  | false, c :: rest =>
    if isBlank c then dropBlanks false rest
    else if c = '#' then dropBlanks true rest
    else c :: rest

namespace Mode

/-- How a pattern is read at first. -/
def start : Mode := ⟨false, false, true⟩

/-- What follows the blanks and comments at the front, where they say nothing. -/
def pass (m : Mode) (s : List Char) : List Char := if m.spaced then dropBlanks false s else s

/-- The next character that says something, in a set. The text of a comment counts there. -/
def ahead? (m : Mode) (s : List Char) : Option Char :=
  if m.spaced then
    match s.dropWhile isBlank with
    | '#' :: rest => (rest.dropWhile isBlank).head?
    | rest => rest.head?
  else s.head?

end Mode

/-- A part of a pattern that has no parts. -/
inductive Atom where
  /-- A character, which may be given as a byte. -/
  | char (c : Char) (byte : Bool)
  /-- A set that has a letter, or all characters but those of it. -/
  | lettered (complement : Bool)
  /-- Where a word begins or ends, or where none does. -/
  | wordEdge
  /-- Where the text begins or ends. -/
  | textEdge
deriving DecidableEq

/-- Reads so many hexadecimal digits. -/
def hexDigits (m : Mode) : Nat → Nat → List Char → Option (Nat × List Char)
  | 0, value, s => some (value, s)
  | count + 1, value, s =>
    match m.pass s with
    | [] => none
    | c :: rest => (hexDigit? c).bind fun d => hexDigits m count (16 * value + d) rest

/-- Reads a character that is given by its number in so many hexadecimal digits. -/
def numbered (m : Mode) (count : Nat) (s : List Char) : Option (Atom × List Char) := do
  let (n, rest) ← hexDigits m count 0 s
  if n < 0xD800 ∨ (0xDFFF < n ∧ n < 0x110000) then
    some (.char (Char.ofNat n) (count == 2), rest)
  else none

/-- The control characters that have a letter. -/
def controls : List (Char × Char) :=
  [('a', '\x07'), ('f', '\x0c'), ('n', '\n'), ('r', '\r'), ('t', '\t'), ('v', '\x0b')]

/-- Reads an escape, after the backslash. A sign of ASCII that is neither letter nor digit stands for
itself; what would need a brace after it is none. -/
def escape (m : Mode) : List Char → Option (Atom × List Char)
  | [] => none
  | c :: rest =>
    if c = 'x' then numbered m 2 rest
    else if c = 'u' then numbered m 4 rest
    else if c = 'U' then numbered m 8 rest
    else if c ∈ ['d', 's', 'w'] then some (.lettered false, rest)
    else if c ∈ ['D', 'S', 'W'] then some (.lettered true, rest)
    else if c ∈ ['b', 'B', '<', '>'] then some (.wordEdge, rest)
    else if c ∈ ['A', 'z'] then some (.textEdge, rest)
    else if c.toNat < 0x80 ∧ !c.isAlphanum then some (.char c false, rest)
    else (controls.lookup c).map fun control => (.char control false, rest)

/-- Whether an atom can be asked for. -/
def Mode.allows (m : Mode) : Atom → Bool
  | .char c byte => if m.unicode then !m.caseless else !(byte && decide (0x80 ≤ c.toNat))
  | .lettered complement => !m.unicode && !complement
  | .wordEdge => true
  | .textEdge => true

end ConfirmedDelivery.Text.Pattern
