/-!
# Runs of code points

Character properties are given by runs: every code point from a first to a last one in steps. A
table lists its runs in ascending order, so a search stops at the first run beyond the code point.
-/

namespace ConfirmedDelivery.Text

/-- The code points `first`, `first + step`, … up to `last`. -/
structure CodeRun where
  first : Nat
  last : Nat
  step : Nat

/-- Whether a code point lies on the run. -/
def CodeRun.holds (r : CodeRun) (n : Nat) : Bool :=
  decide (r.first ≤ n ∧ n ≤ r.last ∧ (n - r.first) % r.step = 0)

/-- Whether a code point lies on one of the runs of an ascending table. -/
def CodeRun.mem (n : Nat) : List CodeRun → Bool
  | [] => false
  | r :: rest => if n < r.first then false else r.holds n || CodeRun.mem n rest

/-- A run of code points and what its first one becomes; the others move by the same distance. -/
structure CodeShift where
  run : CodeRun
  target : Nat

/-- What a code point becomes by an ascending table of shifts. -/
def CodeShift.find? (n : Nat) : List CodeShift → Option Nat
  | [] => none
  | s :: rest =>
    if n < s.run.first then none
    else if s.run.holds n then some (s.target + (n - s.run.first))
    else CodeShift.find? n rest

end ConfirmedDelivery.Text
