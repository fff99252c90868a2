import ConfirmedDelivery.Text.Combining
import ConfirmedDelivery.Text.Unprintable

/-!
# Quoted texts

A text in quotes for a diagnostic message: a quote and a backslash are escaped, line ends and tabs
have letters, and a character that cannot be seen on its own is given by its code point.
-/

namespace ConfirmedDelivery.Text

/-- Hexadecimal digits, as few as needed. -/
def hex (n : Nat) : String := String.ofList (Nat.toDigits 16 n)

/-- Hexadecimal digits, at least `width` of them. -/
def paddedHex (width n : Nat) : String :=
  let digits := Nat.toDigits 16 n
  String.ofList (List.replicate (width - digits.length) '0' ++ digits)

namespace Quoted

/-- One character within quotes. -/
def escape (c : Char) : String :=
  if c = '\x00' then "\\0"
  else if c = '\t' then "\\t"
  else if c = '\r' then "\\r"
  else if c = '\n' then "\\n"
  else if c = '\"' then "\\\""
  else if c = '\\' then "\\\\"
  else if isCombining c || isUnprintable c then "\\u\x7b" ++ hex c.toNat ++ "\x7d"
  else c.toString

end Quoted

/-- The text in quotes. -/
def quoted (s : String) : String :=
  "\"" ++ String.join (s.toList.map Quoted.escape) ++ "\""

end ConfirmedDelivery.Text
