import ConfirmedDelivery.Number.Numeral

/-!
# The fewest digits that read back

A finite number is the nearest one to every decimal in an interval around it, whose ends belong to
it exactly when the significand is even. For one, two, … seventeen digits the two neighbours of the
number on that decimal grid are tried; the first grid with a neighbour in the interval wins, and of
two neighbours the nearer one.
-/

namespace ConfirmedDelivery

/-- Which of two equally near decimals is written. -/
inductive Tie where
  | up
  | even
deriving DecidableEq

namespace Shortest

/-- A scale on which every decimal that can be needed is a whole number. -/
def scale : Nat := tenPow 350

/-- The number and the ends of its interval as whole numbers, the ends belonging to it or not. One
unit is a quarter of `2 ^ -1074 / scale`. -/
structure Window where
  value : Nat
  low : Nat
  high : Nat
  closed : Bool

/-- The interval of the number `significand * 2 ^ exponent`. Below a power of two numbers lie twice
as close. -/
def window (significand exponent : Nat) : Window :=
  let unit := twoPow exponent * scale
  let below := if significand = twoPow 52 ∧ 0 < exponent then 1 else 2
  { value := 4 * significand * unit
    low := (4 * significand - below) * unit
    high := (4 * significand + 2) * unit
    closed := significand % 2 = 0 }

/-- Whether a scaled decimal reads back as the number. -/
def Window.holds (w : Window) (n : Nat) : Bool :=
  if w.closed then decide (w.low ≤ n ∧ n ≤ w.high) else decide (w.low < n ∧ n < w.high)

/-- The better neighbour of the number on the grid of the given step, if one reads back. -/
def neighbour? (tie : Tie) (w : Window) (step : Nat) : Option Nat :=
  let n := w.value / step
  match w.holds (n * step), w.holds ((n + 1) * step) with
  | false, false => none
  | true, false => some n
  | false, true => some (n + 1)
  | true, true =>
    let down := w.value - n * step
    let up := (n + 1) * step - w.value
    if down < up then some n
    else if up < down then some (n + 1)
    else match tie with
      | .up => some (n + 1)
      | .even => some (if n % 2 = 0 then n else n + 1)

/-- Tries grids of ever smaller steps `10 ^ place`, at most `tries` of them; the last one is fine
enough to hold a decimal for every number. -/
def search (tie : Tie) (w : Window) (unit : Nat) : Nat → Nat → Nat × Nat
  | 0, place => (w.value / (tenPow place * unit), place)
  | tries + 1, place =>
    match neighbour? tie w (tenPow place * unit) with
    | some n => (n, place)
    | none => search tie w unit tries (place - 1)

/-- Takes trailing zeros off, at most `fuel` of them. -/
def strip : Nat → Nat → Int → Nat × Int
  | 0, n, e => (n, e)
  | fuel + 1, n, e => if n % 10 = 0 then strip fuel (n / 10) (e + 1) else (n, e)

/-- The digits and the power of ten of the shortest decimal for a positive finite number. -/
def digits (tie : Tie) (x : Binary64) : Nat × Int :=
  let w := window x.significand x.exponent
  let unit := 4 * twoPow 1074
  let place := Decimal.width (w.value / unit) - 1
  let (n, place) := search tie w unit 17 place
  strip 17 n (place - 350)

end Shortest

end ConfirmedDelivery
