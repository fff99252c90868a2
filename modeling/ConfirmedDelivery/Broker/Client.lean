import ConfirmedDelivery.Broker.Basic

/-!
# The link to a broker in memory

A client is a broker and the session that was opened last on it. Of all that happens on the broker
it hands over the confirms of that session.
-/

namespace ConfirmedDelivery.Broker

/-- A broker and the number of the session in use, zero before there is one. -/
structure Client where
  broker : Broker
  session : Nat

namespace Client

/-- The confirms of one session. -/
def confirmsOf (session : Nat) (heard : List Heard) : List Confirm :=
  (heard.filter fun h => h.session == session).map Heard.confirm

/-- A call about the session in use. -/
def call {α : Type} (c : Client) (f : Broker → Nat → Answer α) : Reply Confirm Client α :=
  (f c.broker c.session).map (confirmsOf c.session) (⟨·, c.session⟩) id

/-- Opens a session and uses it from now on. -/
def openSession (c : Client) : Reply Confirm Client Unit :=
  let r := c.broker.openSession
  let session := match r.answer with
    | .ok n => n
    | .error _ => c.session
  r.map (confirmsOf session) (⟨·, session⟩) fun _ => ()

/-- Talks to the broker. Its wall clock stands still. -/
def link : Link Client where
  openSession
  listen c := { c with broker := c.broker.listen c.session 0 }
  enableConfirms c := c.call Broker.enableConfirms
  nextTag c := c.broker.nextTag c.session
  declare destination c := c.call fun b n => b.declare n destination
  transmit destination properties body c :=
    c.call fun b n => b.transmit n destination properties body
  awaitConfirms timeout c := c.call fun b n => b.awaitConfirms n timeout
  lull timeout c :=
    (c.broker.lull timeout).map (fun heard _ => confirmsOf c.session heard) (⟨·, c.session⟩)
  close c := c.call Broker.close
  clock _ := .zero

end Client

end ConfirmedDelivery.Broker
