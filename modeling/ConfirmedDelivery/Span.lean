import ConfirmedDelivery.Number.Binary64

/-!
# Spans of time

A span is a whole number of nanoseconds, fewer than `2 ^ 64` seconds' worth. Seconds become a span
by exact rounding of their binary value to the nearest nanosecond; a number that is negative, too
large or no number at all becomes none (`Span.ofSeconds?`).
-/

namespace ConfirmedDelivery

/-- A length of time in nanoseconds. -/
structure Span where
  nanos : Nat
deriving DecidableEq, Inhabited

namespace Span

def zero : Span := ⟨0⟩

def ofMillis (n : Nat) : Span := ⟨n * 1000000⟩

/-- The first count of nanoseconds that is too many. -/
def limit : Nat := twoPow 64 * 1000000000

/-- The span nearest to a number of seconds, ties to even. -/
def ofSeconds? (secs : Binary64) : Option Span :=
  if secs.isFinite && !(secs.negative && secs.magnitude != 0) then
    let nanos := roundDiv (secs.units * 1000000000) (twoPow 1074)
    if nanos < limit then some ⟨nanos⟩ else none
  else none

/-- The span nearest to a number of seconds, and nothing at all where there is none. -/
def ofSeconds (secs : Binary64) : Span := (ofSeconds? secs).getD zero

/-- The span as a number of seconds: whole seconds and the rest are rounded each, then their sum. -/
def toSeconds (d : Span) : Binary64 :=
  (Binary64.ofNat (d.nanos / 1000000000)).addMagnitudes
    (Binary64.ofRatio false (d.nanos % 1000000000) 1000000000)

/-- How many milliseconds a wait with this bound lasts, a part of one counting whole. The timers that
bound waits are taken to be exact however long they run, also past what a clock can hold. -/
def waitMillis (d : Span) : Nat :=
  if d.nanos % 1000000 = 0 then d.nanos / 1000000 else d.nanos / 1000000 + 1

/-- The decimals of `part` out of `10 ^ places`, without the zeros at the end. -/
def fraction (part places : Nat) : String :=
  let digits := Nat.toDigits 10 (tenPow places + part)
  let kept := (digits.drop 1).reverse.dropWhile (· = '0')
  if kept.isEmpty then "" else "." ++ String.ofList kept.reverse

/-- The span in the largest unit that it fills at least once. -/
def text (d : Span) : String :=
  let n := d.nanos
  if 1000000000 ≤ n then toString (n / 1000000000) ++ fraction (n % 1000000000) 9 ++ "s"
  else if 1000000 ≤ n then toString (n / 1000000) ++ fraction (n % 1000000) 6 ++ "ms"
  else if 1000 ≤ n then toString (n / 1000) ++ fraction (n % 1000) 3 ++ "µs"
  else toString n ++ "ns"

end Span

end ConfirmedDelivery
