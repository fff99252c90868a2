import ConfirmedDelivery.Confirm
import ConfirmedDelivery.Message

/-!
# Rulings

What the broker decides about a message, and scripts by which it decides. A script sees the delivery
and nothing else. Chance is drawn from a seed and the place of the delivery, so that a script remains
a function.
-/

namespace ConfirmedDelivery

namespace Chance

/-- A number that looks drawn at random. It depends on a seed and a place and on nothing else, so that
what is drawn can be drawn again. -/
def draw (seed place : UInt64) : UInt64 :=
  let z := seed + place * 0x9E3779B97F4A7C15
  let z := (z ^^^ (z >>> 30)) * 0xBF58476D1CE4E5B9
  let z := (z ^^^ (z >>> 27)) * 0x94D049BB133111EB
  z ^^^ (z >>> 31)

end Chance

namespace Broker

/-- What the broker answers for one message. -/
inductive Ruling where
  | ack
  | nack
  /-- It never answers. -/
  | withhold
deriving DecidableEq

namespace Ruling

/-- Whether the broker answers at all. -/
def settles (r : Ruling) : Bool := r != .withhold

/-- The verdict of an answer. -/
def verdict : Ruling → Verdict
  | .nack => .nacked
  | .ack => .acked
  | .withhold => .acked

end Ruling

/-- A message as the broker got it. -/
structure Delivery where
  /-- The number of the session, counted from one over the life of the broker. -/
  session : Nat
  tag : Tag
  destination : String
  /-- One when the message is first sent, two when it is sent again, and so on. -/
  attempt : Nat
  properties : Properties
  body : ByteArray

/-- How rulings are made. -/
abbrev Script := Delivery → Ruling

namespace Script

/-- What stands for a script where values are shown. -/
def shown : String := "ConfirmScript(..)"

def ackAll : Script := fun _ => .ack

def nackAll : Script := fun _ => .nack

def withholdAll : Script := fun _ => .withhold

/-- Refuses the first attempt of what passes the test, and takes everything else. -/
def nackFirstAttempt (p : Delivery → Bool) : Script := fun d =>
  if d.attempt = 1 && p d then .nack else .ack

/-- Refuses each message with the given probability; what is no number counts as zero, and beyond
the ends the nearer end counts. -/
def nackRate (seed : UInt64) (rate : Binary64) : Script := fun d =>
  if !rate.isFinite || !rate.positive then .ack
  else if Binary64.one.atMost rate then .nack
  else
    let place := UInt64.ofNat d.session * 0x100000001B3 + d.tag
    if (Chance.draw seed place).toNat * twoPow 1074 < rate.units * twoPow 64 then .nack else .ack

end Script

end Broker

end ConfirmedDelivery
