import ConfirmedDelivery.Span

/-!
# Outcomes and reports

What one round did, and the sum over the rounds of one call.
-/

namespace ConfirmedDelivery

universe u

/-- What a round that came to its end did. -/
structure Outcome (α : Type u) where
  /-- How many messages were sent. -/
  published : Nat
  /-- How many of them were accepted. -/
  confirmed : Nat
  /-- The refused ones. -/
  rejected : List α

/-- What all rounds of a call did. -/
structure Report where
  /-- Messages sent, the repeated ones included. -/
  published : Nat
  /-- Messages accepted. -/
  confirmed : Nat
  /-- Refusals. -/
  nacked : Nat
  /-- Rounds, the first one included. -/
  rounds : Nat
  elapsed : Span
deriving DecidableEq

namespace Report

/-- The report of no round. -/
def empty : Report := ⟨0, 0, 0, 0, Span.zero⟩

/-- The report with one more round. -/
def absorb {α : Type u} (r : Report) (o : Outcome α) : Report :=
  { r with
    published := r.published + o.published
    confirmed := r.confirmed + o.confirmed
    nacked := r.nacked + o.rejected.length
    rounds := r.rounds + 1 }

end Report

end ConfirmedDelivery
