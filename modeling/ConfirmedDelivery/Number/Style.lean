import ConfirmedDelivery.Number.Shortest

/-!
# Writing numbers

Each text that shows a number has its style: where positional writing ends, whether a fraction digit
is always there, how the exponent is written, and what stands for the values that are no numbers.
-/

namespace ConfirmedDelivery

/-- How a number is written. Positional writing is used when the exponent of the leading digit lies
between `least` and `most`. -/
structure NumberStyle where
  tie : Tie
  least : Int
  most : Int
  fraction : Bool
  plusExponent : Bool
  nan : String
  infinite : String
  negativeInfinite : String

namespace NumberStyle

/-- Positional always, a whole number without a point. -/
def plain : NumberStyle := ⟨.up, -400, 400, false, false, "NaN", "inf", "-inf"⟩

/-- Positional between `10 ^ -4` and `10 ^ 16`, always with a fraction digit or an exponent. -/
def diagnostic : NumberStyle := ⟨.up, -4, 15, true, false, "NaN", "inf", "-inf"⟩

/-- The writing of numbers in JSON texts, where what is no number is null. -/
def json : NumberStyle := ⟨.even, -5, 15, true, true, "null", "null", "null"⟩

def zeros (n : Nat) : String := String.ofList (List.replicate n '0')

/-- Digits with the point in its place. -/
def positional (s : NumberStyle) (digits : List Char) (exponent : Int) : String :=
  if 0 ≤ exponent then
    String.ofList digits ++ zeros exponent.toNat ++ (if s.fraction then ".0" else "")
  else
    let places := (-exponent).toNat
    if places < digits.length then
      String.ofList (digits.take (digits.length - places)) ++ "."
        ++ String.ofList (digits.drop (digits.length - places))
    else "0." ++ zeros (places - digits.length) ++ String.ofList digits

/-- One digit before the point and a power of ten. -/
def scientific (s : NumberStyle) (digits : List Char) (lead : Int) : String :=
  let mantissa := match digits with
    | [] => "0"
    | [d] => d.toString
    | d :: rest => d.toString ++ "." ++ String.ofList rest
  let mark := if lead < 0 then "e-" else if s.plusExponent then "e+" else "e"
  mantissa ++ mark ++ toString lead.natAbs

/-- The text of a number. -/
def write (s : NumberStyle) (x : Binary64) : String :=
  if x.isNaN then s.nan
  else if x.isInfinite then if x.negative then s.negativeInfinite else s.infinite
  else
    let sign := if x.negative then "-" else ""
    if x.magnitude = 0 then sign ++ s.positional ['0'] 0
    else
      let (n, exponent) := Shortest.digits s.tie x
      let digits := Nat.toDigits 10 n
      let lead := exponent + digits.length - 1
      if s.least ≤ lead ∧ lead ≤ s.most then sign ++ s.positional digits exponent
      else sign ++ s.scientific digits lead

end NumberStyle

end ConfirmedDelivery
