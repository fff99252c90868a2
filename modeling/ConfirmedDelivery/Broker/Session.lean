import ConfirmedDelivery.Broker.Ruling
import ConfirmedDelivery.Dict
import ConfirmedDelivery.Link

/-!
# Sessions of a broker

A session numbers the messages sent on it and answers for them in passes. A pass takes in what was
sent since the last one and reports everything that is settled, in ascending order of tags; what the
script withholds stays behind. Reports may be collapsed: below the first withheld tag, a run of
consecutive tags with one ruling is reported by a single confirm (`reports`).
-/

namespace ConfirmedDelivery.Broker

/-- How settled messages are reported. -/
inductive Reporting where
  /-- One confirm for each. -/
  | individual
  /-- One confirm for a run of consecutive tags with the same ruling, as long as no lower tag is
  unsettled. -/
  | cumulative
deriving DecidableEq

/-- The name of a way to report. -/
def Reporting.name : Reporting → String
  | .individual => "Individual"
  | .cumulative => "Cumulative"

/-- A delivery and the ruling on it. -/
structure Settlement where
  ruling : Ruling
  delivery : Delivery

namespace Settlement

def tag (s : Settlement) : Tag := s.delivery.tag

/-- Whether the broker answers for it. -/
def settles (s : Settlement) : Bool := s.ruling.settles

/-- Whether `t` goes on a run that ends with `s`. -/
def continues (s t : Settlement) : Bool := t.tag == s.tag + 1 && decide (t.ruling = s.ruling)

end Settlement

/-- The runs that one pass reports, each by one confirm, given all settlements by ascending tag. -/
def reports (mode : Reporting) (pending : List Settlement) : List (List Settlement) :=
  match mode with
  | .individual => (pending.filter Settlement.settles).map fun s => [s]
  | .cumulative =>
    (pending.takeWhile Settlement.settles).splitBy Settlement.continues
      ++ ((pending.dropWhile Settlement.settles).filter Settlement.settles).map fun s => [s]

/-- The confirm that reports a run. -/
def confirmOf (run : List Settlement) : Option Confirm :=
  run.getLast?.map fun s => ⟨⟨s.tag, decide (1 < run.length)⟩, s.ruling.verdict⟩

/-- One session. -/
structure Session where
  /-- The script in force when the session was opened. -/
  script : Script
  /-- Whether confirms are on; then tags are numbered from one. -/
  confirming : Bool
  /-- How settled messages are reported, as it was when confirms were turned on. -/
  reporting : Reporting
  /-- How long a pass waits before it reports, as it was when confirms were turned on. -/
  delay : Span
  nextTag : Tag
  closed : Bool
  /-- How many messages were sent and not yet reported. -/
  unconfirmed : Nat
  /-- The number of whoever hears the confirms. -/
  listener : Option Nat
  /-- Sent, and not yet taken in by a pass; the first one first. -/
  queue : List Settlement
  /-- Taken in, and not yet reported. -/
  pending : Dict Tag Settlement

namespace Session

/-- A session as it is opened. -/
def opened (script : Script) : Session where
  script
  confirming := false
  reporting := .individual
  delay := .zero
  nextTag := 0
  closed := false
  unconfirmed := 0
  listener := none
  queue := []
  pending := ∅

/-- Takes in the first `k` messages of those that were sent. -/
def accept (k : Nat) (s : Session) : Session :=
  { s with
    queue := s.queue.drop k
    pending := (s.queue.take k).foldl (fun p x => p.insert x.tag x) s.pending }

/-- Leaves behind only what is never answered for. -/
def settle (s : Session) : Session :=
  { s with pending := s.pending.keep (fun _ x => !x.settles) }

/-- The session after its end: nothing is reported any more. -/
def shut (s : Session) : Session := { s with closed := true, queue := [] }

end Session

end ConfirmedDelivery.Broker
