import ConfirmedDelivery.InFlight

/-!
# The books of a round

What is in flight, how many items were accepted and refused, and the refused ones in the order in
which they are to be sent again. A confirm settles what it covers once: an item that has left the
flight is not found by a later confirm, so the first answer stands.
-/

namespace ConfirmedDelivery

universe u

/-- The running account of one round. -/
structure Books (α : Type u) where
  inFlight : InFlight α
  acked : Nat
  nacked : Nat
  rejected : List α

namespace Books

variable {α : Type u}

/-- Books with nothing in them. -/
def empty : Books α := ⟨∅, 0, 0, []⟩

instance : EmptyCollection (Books α) := ⟨empty⟩

/-- Records an item in flight; a tag that is taken is refused. -/
def add? (b : Books α) (t : Tag) (a : α) : Option (Books α) :=
  (b.inFlight.add? t a).map (fun f => { b with inFlight := f })

/-- Writes down the verdict on items that have been taken out of flight. -/
def settle (v : Verdict) (resolved : List (Tag × α)) (b : Books α) : Books α :=
  match v with
  | .acked => { b with acked := b.acked + resolved.length }
  | .nacked =>
    { b with
      nacked := b.nacked + resolved.length
      rejected := b.rejected ++ resolved.map Prod.snd }

/-- Applies one confirm and tells what it resolved. The verdict is written down before waiters see
the new count, so whoever sees that nothing is left also sees every refused item queued. -/
def handle (b : Books α) (c : Confirm) : List (Tag × α) × Books α :=
  let r := b.inFlight.resolveWith c.toScope (settle c.verdict) b
  (r.1, { r.2.1 with inFlight := r.2.2 })

/-- Applies confirms in order. -/
def handleAll (b : Books α) (cs : List Confirm) : Books α :=
  cs.foldl (fun b c => (b.handle c).2) b

/-- Queues items to be sent again. -/
def requeue (b : Books α) (items : List α) : Books α :=
  { b with rejected := b.rejected ++ items }

/-- Takes everything queued, oldest first. -/
def takeRejected (b : Books α) : List α × Books α :=
  (b.rejected, { b with rejected := [] })

end Books

end ConfirmedDelivery
