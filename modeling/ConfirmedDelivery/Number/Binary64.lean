/-!
# Binary floating point numbers

A number is kept as its 64 bits. Below the sign bit stands the magnitude, which orders numbers as
their values do; it splits into a significand and an exponent so that the value of a finite number
is `significand * 2 ^ exponent` in units of `2 ^ -1074`. All arithmetic is exact arithmetic on
natural numbers followed by one rounding to nearest, ties to even.
-/

namespace ConfirmedDelivery

/-- Two to the power `n`. -/
abbrev twoPow (n : Nat) : Nat := Nat.pow 2 n

/-- Ten to the power `n`. -/
abbrev tenPow (n : Nat) : Nat := Nat.pow 10 n

/-- The quotient of two natural numbers rounded to nearest, a half going to the even neighbour. -/
def roundDiv (num den : Nat) : Nat :=
  let q := num / den
  let r := num % den
  if 2 * r < den then q
  else if den < 2 * r then q + 1
  else if q % 2 = 0 then q else q + 1

/-- A family of binary numbers: significands below `2 ^ digits`, in units of `2 ^ -depth`. -/
structure BinaryGrid where
  digits : Nat
  depth : Nat

namespace BinaryGrid

/-- The grid of double precision. -/
def double : BinaryGrid := ⟨53, 1074⟩

/-- The grid of single precision. -/
def single : BinaryGrid := ⟨24, 149⟩

/-- The significand and exponent of the point of the grid nearest to `num / den`. -/
def nearest (g : BinaryGrid) (num den : Nat) : Nat × Nat :=
  let scaled := num * twoPow g.depth
  let exponent := (scaled / den).log2 - (g.digits - 1)
  (roundDiv scaled (den * twoPow exponent), exponent)

end BinaryGrid

/-- A double precision number. -/
structure Binary64 where
  bits : UInt64
deriving DecidableEq, Inhabited

namespace Binary64

/-- The magnitude of infinity; above it stand the NaNs. -/
def infiniteMagnitude : Nat := 0x7FF0000000000000

/-- The bits below the sign. -/
def magnitude (x : Binary64) : Nat := x.bits.toNat % twoPow 63

/-- Whether the sign bit is set. -/
def negative (x : Binary64) : Bool := decide (twoPow 63 ≤ x.bits.toNat)

def isNaN (x : Binary64) : Bool := decide (infiniteMagnitude < x.magnitude)

def isInfinite (x : Binary64) : Bool := x.magnitude == infiniteMagnitude

def isFinite (x : Binary64) : Bool := decide (x.magnitude < infiniteMagnitude)

/-- The exponent of a finite number, counted from the smallest unit. -/
def exponent (x : Binary64) : Nat := x.magnitude / twoPow 52 - 1

/-- The significand of a finite number. -/
def significand (x : Binary64) : Nat := x.magnitude - x.exponent * twoPow 52

/-- The absolute value of a finite number in units of `2 ^ -1074`. -/
def units (x : Binary64) : Nat := x.significand * twoPow x.exponent

/-- The number of that sign and magnitude. -/
def ofMagnitude (negative : Bool) (magnitude : Nat) : Binary64 :=
  ⟨UInt64.ofNat (if negative then magnitude + twoPow 63 else magnitude)⟩

def zero : Binary64 := ofMagnitude false 0

def one : Binary64 := ofMagnitude false 0x3FF0000000000000

def infinity (negative : Bool) : Binary64 := ofMagnitude negative infiniteMagnitude

def nan : Binary64 := ofMagnitude false 0x7FF8000000000000

/-- The number nearest to `num / den`; what is too large becomes infinite. -/
def ofRatio (negative : Bool) (num den : Nat) : Binary64 :=
  let (significand, exponent) := BinaryGrid.double.nearest num den
  ofMagnitude negative (min (exponent * twoPow 52 + significand) infiniteMagnitude)

/-- The number nearest to an integer. -/
def ofInt (i : Int) : Binary64 := ofRatio (decide (i < 0)) i.natAbs 1

/-- The number nearest to a natural number. -/
def ofNat (n : Nat) : Binary64 := ofRatio false n 1

/-- The nearest number of single precision, if it is finite. -/
def ofRatioSingle (negative : Bool) (num den : Nat) : Binary64 :=
  let (significand, exponent) := BinaryGrid.single.nearest num den
  if twoPow (24 + 253) ≤ significand * twoPow exponent then infinity negative
  else ofRatio negative (significand * twoPow exponent) (twoPow 149)

/-- The sum of two numbers that are finite and not negative. -/
def addMagnitudes (x y : Binary64) : Binary64 := ofRatio false (x.units + y.units) (twoPow 1074)

/-- A signed magnitude: it orders all numbers but the NaNs by value, the two zeros alike. -/
def rank (x : Binary64) : Int := if x.negative then -(x.magnitude : Int) else x.magnitude

/-- Equality of values: a NaN differs from itself, the two zeros are equal. -/
def same (x y : Binary64) : Bool := !x.isNaN && !y.isNaN && x.rank == y.rank

/-- Whether the value of `x` is at most that of `y`; false when either is a NaN. -/
def atMost (x y : Binary64) : Bool := !x.isNaN && !y.isNaN && decide (x.rank ≤ y.rank)

/-- Whether the value is above zero. -/
def positive (x : Binary64) : Bool := !x.isNaN && decide (0 < x.rank)

end Binary64

end ConfirmedDelivery
