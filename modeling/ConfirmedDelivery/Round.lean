import ConfirmedDelivery.Books
import ConfirmedDelivery.Link

/-!
# Rounds

A round sends a list of messages on a session of its own and waits until each is answered for. Each
message is recorded under the tag announced for it before it is sent, so that even an answer that
comes at once finds it. Whatever happens after the session was opened, the round closes it.
-/

namespace ConfirmedDelivery

/-- A state and the journal kept so far. -/
structure Journaled (σ : Type) where
  state : σ
  journal : Array Event

namespace Journaled

variable {σ : Type}

/-- A state with an empty journal. -/
def start (s : σ) : Journaled σ := ⟨s, #[]⟩

/-- Tells the journal. -/
def note (j : Journaled σ) (e : Event) : Journaled σ := { j with journal := j.journal.push e }

end Journaled

/-- The state of a round: the link, the journal, the books, the destinations declared and the number
of messages sent. -/
structure Round (σ : Type) where
  link : σ
  journal : Array Event
  books : Books Message
  declared : List String
  sent : Nat

namespace Round

variable {σ α : Type}

/-- The state in which a round begins. -/
def start (j : Journaled σ) : Round σ := ⟨j.state, j.journal, ∅, [], 0⟩

/-- What the next round begins with. -/
def leave (r : Round σ) : Journaled σ := ⟨r.link, r.journal⟩

/-- What the journal is told of a confirm that resolved these messages. -/
def confirmEvents (c : Confirm) (resolved : List (Tag × Message)) : List Event :=
  if resolved.isEmpty then [.unmatched c]
  else resolved.map (fun e => .settled c.verdict e.1 e.2.id c.multiple)

/-- Applies one confirm to the books. -/
def take (r : Round σ) (c : Confirm) : Round σ :=
  let (resolved, books) := r.books.handle c
  { r with books, journal := r.journal ++ confirmEvents c resolved }

/-- Goes on with the link in a new state, the confirms that came in being applied. -/
def absorb (r : Round σ) (confirms : List Confirm) (link : σ) : Round σ :=
  confirms.foldl take { r with link }

/-- Whether nothing is left in flight, as far as a waiter can see. -/
def drained (r : Round σ) : Bool := r.books.inFlight.drained

end Round

/-- A step of a round, which may fail. -/
abbrev RoundM (σ α : Type) := ExceptT Failure (StateM (Round σ)) α

namespace RoundM

variable {σ α : Type}

/-- Tells the journal. -/
def note (e : Event) : RoundM σ Unit :=
  modify fun r => { r with journal := r.journal.push e }

/-- Makes a call on the link and applies the confirms that came in meanwhile. -/
def call (f : σ → Reply Confirm σ α) : RoundM σ α := do
  let r ← get
  let reply := f r.link
  set (Round.absorb { r with journal := r.journal ++ reply.notes } reply.events reply.state)
  match reply.answer with
  | .ok a => pure a
  | .error fault => throw (.link fault)

end RoundM

/-- The consecutive parts of a list of `n` items each, the last one perhaps shorter; of as many parts
as the list has items none is empty. -/
def chunksFrom {α : Type} (n : Nat) : Nat → List α → List (List α)
  | _, [] => []
  | 0, _ :: _ => []
  | fuel + 1, l => l.take n :: chunksFrom n fuel (l.drop n)

/-- The consecutive parts of a list of `n` items each, the last one perhaps shorter. -/
def chunks {α : Type} (n : Nat) (l : List α) : List (List α) := chunksFrom n l.length l

namespace Round

open RoundM

variable {σ : Type} (link : Link σ) (settings : Settings) (number : Nat)

/-- Declares a destination that was not declared in this round. -/
def ensureDeclared (destination : String) : RoundM σ Unit := do
  unless (← get).declared.contains destination do
    call (link.declare destination)
    modify fun r => { r with declared := destination :: r.declared }

/-- Records a message under the tag announced for it. -/
def recordNext (m : Message) : RoundM σ Tag := do
  let r ← get
  let tag := link.nextTag r.link
  match r.books.add? tag m with
  | none => throw (.duplicateTag tag)
  | some books =>
    set { r with books }
    pure tag

/-- Sends one message. -/
def sendOne (m : Message) : RoundM σ Unit := do
  let destination := m.destination
  ensureDeclared link destination
  let expected ← recordNext link m
  let properties := m.properties settings.contentType settings.persistent
  let assigned ← call (link.transmit destination properties m.body)
  if assigned ≠ expected then throw (.tagMismatch expected assigned)
  modify fun r => { r with sent := r.sent + 1 }
  note (.published assigned (link.nextTag (← get).link) m.id destination)

/-- Sends messages one after another. -/
def sendAll : List Message → RoundM σ Unit
  | [] => pure ()
  | m :: rest => do
    sendOne link settings m
    sendAll rest

/-- Waits for the confirms of a batch. -/
def awaitBatch (batch : Nat) : RoundM σ Unit := do
  let timeout := settings.batchConfirmTimeout
  unless ← call (link.awaitConfirms timeout) do
    note (.batchLate number batch (← get).books.inFlight.size)
    throw (.batchConfirmTimeout batch timeout)

/-- Sends batches, the first of them being number `batch`. -/
def sendBatches (batch : Nat) : List (List Message) → RoundM σ Unit
  | [] => pure ()
  | messages :: rest => do
    sendAll link settings messages
    if settings.pacing ≠ .streaming then awaitBatch link settings number batch
    sendBatches (batch + 1) rest

/-- Waits until nothing is left in flight. -/
def drain : RoundM σ Unit := do
  let r ← get
  unless r.drained do
    let timeout := settings.timeout
    let (inTime, r) := (link.lull timeout r.link).watch absorb drained r
    set r
    unless inTime do
      let outstanding := r.books.inFlight.size
      note (.drainLate number outstanding timeout)
      throw (.confirmationTimeout outstanding timeout)

/-- All that a round does on its open session but closing it. -/
def drive (messages : List Message) : RoundM σ Unit := do
  modify fun r => { r with link := link.listen r.link }
  call link.enableConfirms
  note (.confirming number (link.nextTag (← get).link))
  sendBatches link settings number 1 (chunks settings.chunkSize messages)
  drain link settings number

/-- Closes the session; that it cannot be closed is only told to the journal. -/
def closeSession : StateM (Round σ) Unit := do
  match ← (call link.close).run with
  | .ok () => pure ()
  | .error (.link fault) => modify fun r =>
    { r with journal := r.journal.push (.closeFailed number fault) }
  | .error _ => pure ()

/-- Tells the journal how many messages a failed round leaves unanswered. -/
def abandon : StateM (Round σ) Unit := modify fun r =>
  let left := r.books.inFlight.size
  if left = 0 then r else { r with journal := r.journal.push (.abandoned number left) }

/-- Runs round `number` with the given messages. -/
def conduct (messages : List Message) : StateM (Round σ) (Except Failure (Outcome Message)) := do
  match ← (call link.openSession).run with
  | .error failure => pure (.error failure)
  | .ok () =>
    let result ← (drive link settings number messages).run
    closeSession link number
    match result with
    | .error failure => do
      abandon number
      pure (.error failure)
    | .ok () => do
      let r ← get
      pure (.ok ⟨r.sent, r.books.acked, r.books.rejected⟩)

end Round

end ConfirmedDelivery
