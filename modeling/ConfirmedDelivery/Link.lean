import ConfirmedDelivery.Journal.Event
import ConfirmedDelivery.Lull

/-!
# Links to a broker

All that a publisher asks of a broker. A session is one numbered stream of messages: once confirms
are on, the broker answers for each message by the tag under which it was sent. Confirms may come in
during any call, in any order and any number of times; a call hands over those that came in before it
returned. `Link.traced` writes down every call made on a link.
-/

namespace ConfirmedDelivery

/-- What a call gives back: its answer, the events that came in meanwhile, what the journal is told,
and the state afterwards. -/
structure Reply (ε σ α : Type) where
  answer : Except LinkFault α
  events : List ε
  notes : List Event
  state : σ

namespace Reply

variable {ε σ α : Type}

/-- An answer and nothing else. -/
def quiet (answer : Except LinkFault α) (state : σ) : Reply ε σ α := ⟨answer, [], [], state⟩

/-- The same reply seen through other eyes. -/
def map {ε' σ' β : Type} (f : List ε → List ε') (g : σ → σ') (h : α → β) (r : Reply ε σ α) :
    Reply ε' σ' β :=
  ⟨r.answer.map h, f r.events, r.notes, g r.state⟩

end Reply

/-- A way to talk to a broker, in a state that each call changes. -/
structure Link (σ : Type) where
  /-- Opens a session; all other calls are about the one opened last. -/
  openSession : σ → Reply Confirm σ Unit
  /-- From now on confirms are handed over. -/
  listen : σ → σ
  /-- Asks for confirms, and for numbering. -/
  enableConfirms : σ → Reply Confirm σ Unit
  /-- The tag that the next message is going to get. -/
  nextTag : σ → Tag
  /-- Makes sure that a destination exists. -/
  declare : String → σ → Reply Confirm σ Unit
  /-- Sends one message and tells the tag that it got. -/
  transmit : String → Properties → ByteArray → σ → Reply Confirm σ Tag
  /-- Waits until every message of the session is answered for; false when the time is up. -/
  awaitConfirms : Span → σ → Reply Confirm σ Bool
  /-- What happens while nobody calls. -/
  lull : Span → σ → Lull Confirm σ
  /-- Ends the session. -/
  close : σ → Reply Confirm σ Unit
  /-- What the wall clock shows. -/
  clock : σ → Span

/-- A call on a link. -/
inductive Call where
  | openSession
  | listen
  | enableConfirms
  | declare (destination : String)
  | transmit (announced : Tag) (destination : String) (properties : Properties) (body : ByteArray)
  | awaitConfirms (timeout : Span)
  | close

/-- A state together with the calls made so far, the last one first. -/
structure Traced (σ : Type) where
  state : σ
  reversed : List Call

namespace Traced

variable {σ : Type}

/-- A state with no call made. -/
def start (s : σ) : Traced σ := ⟨s, []⟩

/-- The calls in the order in which they were made. -/
def calls (t : Traced σ) : List Call := t.reversed.reverse

/-- Makes a call and writes it down. -/
def record {α : Type} (t : Traced σ) (c : Call) (f : σ → Reply Confirm σ α) :
    Reply Confirm (Traced σ) α :=
  (f t.state).map id (fun s => ⟨s, c :: t.reversed⟩) id

end Traced

/-- The link with every call on it written down. -/
def Link.traced {σ : Type} (l : Link σ) : Link (Traced σ) where
  openSession t := t.record .openSession l.openSession
  listen t := ⟨l.listen t.state, .listen :: t.reversed⟩
  enableConfirms t := t.record .enableConfirms l.enableConfirms
  nextTag t := l.nextTag t.state
  declare d t := t.record (.declare d) (l.declare d)
  transmit d p body t :=
    t.record (.transmit (l.nextTag t.state) d p body) (l.transmit d p body)
  awaitConfirms timeout t := t.record (.awaitConfirms timeout) (l.awaitConfirms timeout)
  lull timeout t := (l.lull timeout t.state).map (fun events _ => events) (⟨·, t.reversed⟩)
  close t := t.record .close l.close
  clock t := l.clock t.state

end ConfirmedDelivery
