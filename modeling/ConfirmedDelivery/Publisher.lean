import ConfirmedDelivery.Retry
import ConfirmedDelivery.Settings.Check

/-!
# Publishers

A publisher has settings that it can run with. It sends messages over a link in rounds and comes back
when the broker has accepted every one of them, or with the failure that kept it from that.
-/

namespace ConfirmedDelivery

/-- A publisher with its settings, which hold no fault. -/
structure Publisher where
  settings : Settings
  sound : settings.check = .ok ()

namespace Publisher

variable {σ : Type}

/-- The publisher with the given settings, unless there is a fault in them. -/
def ofSettings (s : Settings) : Except Failure Publisher :=
  match h : s.check with
  | .ok () => .ok ⟨s, h⟩
  | .error fault => .error (.configuration fault.message)

/-- One round over a link. -/
def conduct (p : Publisher) (link : Link σ) : Retry.Conduct σ Message :=
  fun number messages j =>
    let (result, r) := (Round.conduct link p.settings number messages).run (Round.start j)
    (result, r.leave)

/-- Sends messages and comes back when every one is accepted. -/
def publishAll (p : Publisher) (link : Link σ) (messages : List Message) (j : Journaled σ) :
    Option (Except Failure Report) × Journaled σ :=
  let began := link.clock j.state
  Retry.run p.settings.retry (fun s => ⟨(link.clock s).nanos - began.nanos⟩) (p.conduct link)
    messages j

/-- Sends one message. -/
def publish (p : Publisher) (link : Link σ) (message : Message) (j : Journaled σ) :
    Option (Except Failure Report) × Journaled σ :=
  p.publishAll link [message] j

end Publisher

end ConfirmedDelivery
