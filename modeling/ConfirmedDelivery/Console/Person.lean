import ConfirmedDelivery.Broker.Ruling
import ConfirmedDelivery.Text.Casing

/-!
# People

What the console publishes is about people who were made up: their names, an address made from the
names, and an age.
-/

namespace ConfirmedDelivery

namespace Chance

/-- A number below `n`, if there is one. -/
def below (n : Nat) (seed place : UInt64) : Nat := (draw seed place).toNat % n

/-- The item of a list that the place falls on. -/
def pick {α : Type} (default : α) (items : List α) (seed place : UInt64) : α :=
  items.getD (below items.length seed place) default

end Chance

namespace Console

/-- Somebody to send a message about. -/
structure Person where
  firstName : String
  lastName : String
  email : String
  age : Nat

namespace Person

def firstNames : List String :=
  ["Ada", "Alan", "Barbara", "Dennis", "Edsger", "Frances", "Grace", "Ken", "Leslie", "Margaret"]

def lastNames : List String :=
  ["Allen", "Dijkstra", "Hamilton", "Hopper", "Lamport", "Liskov", "Lovelace", "Ritchie", "Thompson",
    "Turing"]

/-- How many numbers are drawn for a message. -/
def draws : UInt64 := 5

/-- The person at a place. -/
def drawn (seed place : UInt64) : Person :=
  let first := Chance.pick "Ada" firstNames seed place
  let last := Chance.pick "Lovelace" lastNames seed (place + 1)
  { firstName := first
    lastName := last
    email := Text.toLower first ++ "." ++ Text.toLower last ++ "@example.com"
    age := 18 + Chance.below 72 seed (place + 2) }

/-- The person as JSON. -/
def json (p : Person) : Json :=
  .mapping [("first_name", .text p.firstName), ("last_name", .text p.lastName),
    ("email", .text p.email), ("age", .integer p.age)]

/-- The message with number `n` of all that are drawn from a seed; its identifier is also one of its
attributes. -/
def message (seed : UInt64) (n : Nat) : Message :=
  let place := UInt64.ofNat n * draws
  let bits := (Chance.draw seed (place + 3)).toNat * twoPow 64 + (Chance.draw seed (place + 4)).toNat
  let m := Message.ofJson (.ofBits (BitVec.ofNat 128 bits)) "PersonMessage" (drawn seed place).json
  { m with attributes := Attributes.empty.add "message-id" m.id.text }

end Person

end Console

end ConfirmedDelivery
