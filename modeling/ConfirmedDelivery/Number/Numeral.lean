import ConfirmedDelivery.Number.Binary64

/-!
# Reading numbers

Number texts and the faults of texts that are none. A decimal numeral is read exactly, as digits and
a power of ten, and rounded once.
-/

namespace ConfirmedDelivery

/-- A decimal fraction `± digits * 10 ^ exponent`. -/
structure Decimal where
  negative : Bool
  digits : Nat
  exponent : Int
deriving DecidableEq

/-- What a text can say about a real number. -/
inductive Numeral where
  | nan
  | infinite (negative : Bool)
  | finite (value : Decimal)
deriving DecidableEq

/-- Why a text is no number. -/
inductive NumberFault where
  | emptyReal
  | invalidReal
  | emptyInteger
  | invalidDigit
  | tooLarge
  | tooSmall
deriving DecidableEq

def NumberFault.message : NumberFault → String
  | .emptyReal => "cannot parse float from empty string"
  | .invalidReal => "invalid float literal"
  | .emptyInteger => "cannot parse integer from empty string"
  | .invalidDigit => "invalid digit found in string"
  | .tooLarge => "number too large to fit in target type"
  | .tooSmall => "number too small to fit in target type"

/-- The value of a decimal digit. -/
def digit? (c : Char) : Option Nat :=
  if '0' ≤ c ∧ c ≤ '9' then some (c.toNat - '0'.toNat) else none

/-- The value of a hexadecimal digit. -/
def hexDigit? (c : Char) : Option Nat :=
  if '0' ≤ c ∧ c ≤ '9' then some (c.toNat - '0'.toNat)
  else if 'a' ≤ c ∧ c ≤ 'f' then some (c.toNat - 'a'.toNat + 10)
  else if 'A' ≤ c ∧ c ≤ 'F' then some (c.toNat - 'A'.toNat + 10)
  else none

/-- Takes the digits that a text starts with: `value` continued by them, and how many they are. -/
def takeDigits (value count : Nat) : List Char → Nat × Nat × List Char
  | [] => (value, count, [])
  | c :: rest =>
    match digit? c with
    | some d => takeDigits (10 * value + d) (count + 1) rest
    | none => (value, count, c :: rest)

namespace Decimal

/-- The number of decimal digits of a natural number. -/
def width (n : Nat) : Nat := (Nat.toDigits 10 n).length

/-- Rounds by `round`, which is given a numerator and a denominator. Powers of ten far outside the
range of double precision are settled before they are computed. -/
def roundWith (round : Bool → Nat → Nat → Binary64) (d : Decimal) : Binary64 :=
  if d.digits = 0 then Binary64.ofMagnitude d.negative 0
  else
    let top := d.exponent + width d.digits
    if 400 < top then Binary64.infinity d.negative
    else if top < -400 then Binary64.ofMagnitude d.negative 0
    else if 0 ≤ d.exponent then round d.negative (d.digits * tenPow d.exponent.toNat) 1
    else round d.negative d.digits (tenPow (-d.exponent).toNat)

/-- The nearest double precision number. A reader that scales by powers of ten in double precision may
miss it by one for decimals of many digits. That a text is read as its nearest number is an assumption
on the texts where such a reader reads them. -/
def toBinary64 (d : Decimal) : Binary64 := d.roundWith Binary64.ofRatio

end Decimal

namespace Numeral

/-- The power of ten written after the digits: `e`, a sign or none, and at least one digit. -/
def exponent? : List Char → Option Int
  | [] => some 0
  | c :: rest =>
    if c = 'e' ∨ c = 'E' then
      let (negative, digits) := match rest with
        | '+' :: r => (false, r)
        | '-' :: r => (true, r)
        | r => (false, r)
      match takeDigits 0 0 digits with
      | (value, _ + 1, []) => some (if negative then -(value : Int) else value)
      | _ => none
    else none

/-- A text without its sign. -/
def unsigned? (negative : Bool) (text : List Char) : Option Numeral :=
  let folded := text.map Char.toLower
  if folded = "nan".toList then some .nan
  else if folded = "inf".toList ∨ folded = "infinity".toList then some (.infinite negative)
  else
    let (whole, wholeCount, rest) := takeDigits 0 0 text
    let (digits, count, rest) := match rest with
      | '.' :: r => takeDigits whole 0 r
      | r => (whole, 0, r)
    if wholeCount + count = 0 then none
    else (exponent? rest).map (fun e => .finite ⟨negative, digits, e - count⟩)

/-- Reads a real number: digits with or without a point and a power of ten, or the names of
infinity and NaN in any case, after an optional sign. -/
def read (text : List Char) : Except NumberFault Numeral :=
  let numeral := match text with
    | '+' :: r => unsigned? false r
    | '-' :: r => unsigned? true r
    | r => unsigned? false r
  match numeral with
  | some n => .ok n
  | none => .error (if text.isEmpty then .emptyReal else .invalidReal)

/-- The double precision number that a numeral stands for. -/
def toBinary64 : Numeral → Binary64
  | .nan => .nan
  | .infinite negative => .infinity negative
  | .finite d => d.toBinary64

/-- The single precision number that a numeral stands for, as a double precision one. -/
def toSingle : Numeral → Binary64
  | .nan => .nan
  | .infinite negative => .infinity negative
  | .finite d => d.roundWith Binary64.ofRatioSingle

end Numeral

/-- The double precision number that a text denotes. -/
def readReal (text : String) : Except NumberFault Binary64 :=
  (Numeral.read text.toList).map Numeral.toBinary64

namespace Whole

/-- Reads the digits of a number whose absolute value may not pass `bound`. The first digit that is
none, or that takes the value past the bound, is the fault. -/
def digits (bound : Nat) (past : NumberFault) (value : Nat) : List Char → Except NumberFault Nat
  | [] => .ok value
  | c :: rest =>
    match digit? c with
    | none => .error .invalidDigit
    | some d =>
      if bound < 10 * value + d then .error past
      else digits bound past (10 * value + d) rest

/-- Reads a natural number of at most `bound`, an optional plus before it. -/
def read (bound : Nat) (text : String) : Except NumberFault Nat :=
  match text.toList with
  | [] => .error .emptyInteger
  | ['+'] => .error .invalidDigit
  | '+' :: r => digits bound .tooLarge 0 r
  | r => digits bound .tooLarge 0 r

/-- Reads an integer of two's complement range `-bound ≤ i < bound`, an optional sign before it. -/
def readSigned (bound : Nat) (text : String) : Except NumberFault Int :=
  match text.toList with
  | [] => .error .emptyInteger
  | ['+'] => .error .invalidDigit
  | ['-'] => .error .invalidDigit
  | '-' :: r => (digits bound .tooSmall 0 r).map (fun n => -(n : Int))
  | '+' :: r => (digits (bound - 1) .tooLarge 0 r).map Int.ofNat
  | r => (digits (bound - 1) .tooLarge 0 r).map Int.ofNat

end Whole

/-- Reads a natural number of 64 bits. -/
def readWord (text : String) : Except NumberFault Nat := Whole.read (twoPow 64 - 1) text

end ConfirmedDelivery
