import ConfirmedDelivery.Broker.Session

/-!
# A broker in memory

The broker keeps what it took, a log of what it got and a log of what it answered. Sessions answer in
passes, which run only while somebody waits. Time is counted in milliseconds and moves only when
everyone waits, to the next moment at which something is due.
-/

namespace ConfirmedDelivery

namespace Broker

/-- A confirm in the log of the broker. -/
structure ConfirmRecord where
  session : Nat
  confirm : Confirm
deriving DecidableEq

/-- A confirm on its way to a listener. -/
structure Heard where
  session : Nat
  listener : Nat
  confirm : Confirm
deriving DecidableEq

/-- How often each message was sent. -/
abbrev Tally := List (MessageId × Nat)

namespace Tally

/-- How often a message was sent. -/
def count (t : Tally) (id : MessageId) : Nat := (t.lookup id).getD 0

/-- Counts a message once more. -/
def bump (id : MessageId) : Tally → Tally
  | [] => [(id, 1)]
  | (x, n) :: rest => if x = id then (x, n + 1) :: rest else (x, n) :: bump id rest

theorem count_cons (x id : MessageId) (n : Nat) (rest : Tally) :
    count ((x, n) :: rest) id = if id = x then n else count rest id := by
  unfold count
  rw [List.lookup_cons]
  by_cases h : id = x
  · rw [if_pos h, beq_iff_eq.2 h]
    rfl
  · rw [if_neg h, beq_eq_false_iff_ne.2 h]

theorem count_bump (id id' : MessageId) : ∀ t : Tally,
    (bump id t).count id' = t.count id' + if id' = id then 1 else 0
  | [] => by
    rw [bump, count_cons]
    exact (Nat.zero_add _).symm
  | (x, n) :: rest => by
    have ih := count_bump id id' rest
    unfold bump
    by_cases hx : x = id
    · rw [if_pos hx, count_cons, count_cons, hx]
      split <;> rfl
    · rw [if_neg hx, count_cons, count_cons, ih]
      split
      · next h => rw [if_neg (h ▸ hx), Nat.add_zero]
      · rfl

end Tally

end Broker

open Broker

/-- A broker in memory. -/
structure Broker where
  /-- The script for sessions opened from now on. -/
  script : Script
  /-- How settled messages are reported in sessions whose confirms are turned on from now on. -/
  reporting : Reporting
  /-- How long a pass waits in such sessions before it reports. -/
  delay : Span
  /-- After so many messages sent, every further one fails. -/
  limit : Option Nat
  /-- Whether new sessions are refused. -/
  disconnected : Bool
  /-- All sessions, by their numbers from one. -/
  sessions : List Session
  /-- What was taken, by destination. -/
  queues : Dict String (List Delivery)
  /-- Everything that was got. -/
  deliveries : List Delivery
  /-- Everything that was answered. -/
  confirms : List ConfirmRecord
  attempts : Tally
  /-- How many messages were tried to send. -/
  transmits : Nat
  /-- How many sessions were closed. -/
  closed : Nat
  /-- How many times somebody waited for confirms. -/
  waits : Nat
  /-- The time in milliseconds. -/
  now : Nat
  /-- Sessions whose next pass can begin, in the order in which they came to it. -/
  ready : List Nat
  /-- Sessions whose pass is to report at a later time, by that time. -/
  due : Dict Nat (List Nat)

namespace Broker

/-- A broker that takes everything. -/
def start : Broker where
  script := Script.ackAll
  reporting := .individual
  delay := .zero
  limit := none
  disconnected := false
  sessions := []
  queues := ∅
  deliveries := []
  confirms := []
  attempts := []
  transmits := 0
  closed := 0
  waits := 0
  now := 0
  ready := []
  due := ∅

/-- How many sessions were opened. -/
def opened (b : Broker) : Nat := b.sessions.length

/-- The session with a number; there is none with number zero. -/
def session? (b : Broker) : Nat → Option Session
  | 0 => none
  | n + 1 => b.sessions[n]?

/-- Changes one session. -/
def update (b : Broker) (n : Nat) (f : Session → Session) : Broker :=
  match n with
  | 0 => b
  | n + 1 => { b with sessions := b.sessions.modify n f }

/-- What was taken at a destination. -/
def stored (b : Broker) (destination : String) : List Delivery :=
  (b.queues.get? destination).getD []

/-- How many messages were taken. -/
def storedCount (b : Broker) : Nat := b.queues.values.foldl (fun n ds => n + ds.length) 0

/-- The destinations that exist, ascending. -/
def destinations (b : Broker) : List String := b.queues.keys

/-- Keeps a message at its destination. -/
def store (b : Broker) (d : Delivery) : Broker :=
  { b with queues := b.queues.insert d.destination (b.stored d.destination ++ [d]) }

/-! ## Passes -/

/-- Reports one run of a session: what is taken is kept, the confirm is logged and handed to whoever
listens, and the messages are no longer unconfirmed. -/
def report (b : Broker) (n : Nat) (run : List Settlement) : Broker × List Heard :=
  match confirmOf run, b.session? n with
  | some c, some s =>
    let b := match c.verdict with
      | .acked => (run.map Settlement.delivery).foldl store b
      | .nacked => b
    let b := { b with confirms := b.confirms ++ [(⟨n, c⟩ : ConfirmRecord)] }
    let b := b.update n fun s => { s with unconfirmed := s.unconfirmed - run.length }
    (b, (s.listener.map fun l => (⟨n, l, c⟩ : Heard)).toList)
  | _, _ => (b, [])

/-- Reports runs one after another. -/
def reportAll (n : Nat) : List (List Settlement) → Broker → Broker × List Heard
  | [], b => (b, [])
  | run :: rest, b =>
    let (b, heard) := b.report n run
    let (b, more) := reportAll n rest b
    (b, heard ++ more)

/-- A pass of a session that takes in the first `k` messages of those that were sent and reports what
is settled. -/
def passFirst (k : Nat) (b : Broker) (n : Nat) : Broker × List Heard :=
  match (b.session? n).map (Session.accept k) with
  | none => (b, [])
  | some s => reportAll n (reports s.reporting s.pending.values) (b.update n fun _ => s.settle)

/-- How many messages of a session no pass has taken in. -/
def queued (b : Broker) (n : Nat) : Nat := ((b.session? n).map fun s => s.queue.length).getD 0

/-- A pass of a session that takes in everything that was sent. -/
def pass (b : Broker) (n : Nat) : Broker × List Heard := passFirst (b.queued n) b n

/-- Lets the passes of several sessions report. -/
def passAll : List Nat → Broker → Broker × List Heard
  | [], b => (b, [])
  | n :: rest, b =>
    let (b, heard) := b.pass n
    let (b, more) := passAll rest b
    (b, heard ++ more)

/-- Begins the pass of a session, if anything was sent on it: it reports at once or, where there is a
delay, when the delay is over. -/
def beginPass (b : Broker) (n : Nat) : Broker × List Heard :=
  match b.session? n with
  | none => (b, [])
  | some s =>
    if s.queue.isEmpty then (b, [])
    else if s.delay.nanos = 0 then b.pass n
    else
      let time := b.now + s.delay.waitMillis
      ({ b with due := b.due.insert time ((b.due.get? time).getD [] ++ [n]) }, [])

/-- Begins the passes of several sessions. -/
def beginAll : List Nat → Broker → Broker × List Heard
  | [], b => (b, [])
  | n :: rest, b =>
    let (b, heard) := b.beginPass n
    let (b, more) := beginAll rest b
    (b, heard ++ more)

/-- Everything that can happen without time moving on. -/
def runReady (b : Broker) : Broker × List Heard :=
  let overdue := (b.due.keep fun time _ => decide (time ≤ b.now)).values.flatten
  let (b, heard) :=
    passAll overdue { b with due := b.due.keep fun time _ => decide (b.now < time) }
  let (b, more) := beginAll b.ready { b with ready := [] }
  (b, heard ++ more)

/-- What happens as the passes report that are due before the deadline. -/
def lullUntil (deadline : Nat) : List (Nat × List Nat) → Broker → Lull Heard Broker
  | [], b => .timeUp [] { b with now := deadline }
  | (time, ns) :: rest, b =>
    if deadline ≤ time then .timeUp [] { b with now := deadline }
    else
      let (b, heard) :=
        passAll ns { b with now := time, due := b.due.keep fun t _ => decide (time < t) }
      .stir heard b (lullUntil deadline rest b)

/-- The time at which a wait that begins now is over. -/
def deadline (b : Broker) (timeout : Span) : Nat := b.now + timeout.waitMillis

/-- What happens while nobody calls. A wait of no length lets nothing happen. -/
def lull (b : Broker) (timeout : Span) : Lull Heard Broker :=
  let deadline := b.deadline timeout
  if deadline ≤ b.now then .timeUp [] b
  else
    let (b, heard) := b.runReady
    .stir heard b (lullUntil deadline b.due.entries b)

/-! ## Calls -/

/-- What a call on the broker gives back. -/
abbrev Answer (α : Type) := Reply Heard Broker α

/-- The session with a number, unless it is closed. -/
def openSession? (b : Broker) (n : Nat) : Except LinkFault Session :=
  match b.session? n with
  | none => .error .sessionClosed
  | some s => if s.closed then .error .sessionClosed else .ok s

/-- Opens a session and tells its number. -/
def openSession (b : Broker) : Answer Nat :=
  if b.disconnected then .quiet (.error (.connectionClosed "broker disconnected")) b
  else
    let n := b.sessions.length + 1
    ⟨.ok n, [], [.sessionOpened n], { b with sessions := b.sessions ++ [.opened b.script] }⟩

/-- Hands the confirms of a session to a listener from now on. -/
def listen (b : Broker) (n listener : Nat) : Broker :=
  b.update n fun s => { s with listener := some listener }

/-- Turns the confirms of a session on. -/
def enableConfirms (b : Broker) (n : Nat) : Answer Unit :=
  match b.openSession? n with
  | .error fault => .quiet (.error fault) b
  | .ok s =>
    if s.confirming then .quiet (.ok ()) b
    else
      let b := b.update n fun s =>
        { s with
          confirming := true
          reporting := b.reporting
          delay := b.delay
          nextTag := 1 }
      .quiet (.ok ()) { b with ready := b.ready ++ [n] }

/-- The tag that the next message of a session is going to get. -/
def nextTag (b : Broker) (n : Nat) : Tag := ((b.session? n).map Session.nextTag).getD 0

/-- Makes sure that a destination exists. -/
def declare (b : Broker) (n : Nat) (destination : String) : Answer Unit :=
  match b.openSession? n with
  | .error fault => .quiet (.error fault) b
  | .ok _ =>
    .quiet (.ok ()) { b with queues := b.queues.insert destination (b.stored destination) }

/-- Wakes a session that has something to take in. -/
def wake (b : Broker) (n : Nat) : Broker :=
  if b.ready.contains n || b.due.values.any (·.contains n) then b
  else { b with ready := b.ready ++ [n] }

/-- Sends a message on a session. Without confirms it is kept at once and has no tag. -/
def transmit (b : Broker) (n : Nat) (destination : String) (properties : Properties)
    (body : ByteArray) : Answer Tag :=
  match b.openSession? n with
  | .error fault => .quiet (.error fault) b
  | .ok s =>
    if !b.queues.contains destination then .quiet (.error (.unknownDestination destination)) b
    else
      let tried := b.transmits
      let b := { b with transmits := tried + 1 }
      if b.limit.any (fun most => decide (most ≤ tried)) then
        .quiet (.error (.connectionClosed "connection reset during transmit")) b
      else
        let attempts := Tally.bump properties.messageId b.attempts
        let d : Delivery :=
          ⟨n, s.nextTag, destination, Tally.count attempts properties.messageId, properties, body⟩
        let b := { b with attempts, deliveries := b.deliveries ++ [d] }
        let notes := [.transmitted n s.nextTag destination]
        if s.confirming then
          let b := b.update n fun s =>
            { s with
              nextTag := s.nextTag + 1
              unconfirmed := s.unconfirmed + 1
              queue := s.queue ++ [⟨s.script d, d⟩] }
          ⟨.ok s.nextTag, [], notes, b.wake n⟩
        else ⟨.ok 0, [], notes, b.store d⟩

/-- Whether every message of a session is answered for. -/
def allConfirmed (b : Broker) (n : Nat) : Bool :=
  ((b.session? n).map Session.unconfirmed).getD 0 == 0

/-- Waits until every message of a session is answered for. -/
def awaitConfirms (b : Broker) (n : Nat) (timeout : Span) : Answer Bool :=
  match b.openSession? n with
  | .error fault => .quiet (.error fault) b
  | .ok s =>
    if !s.confirming then .quiet (.error .confirmModeRequired) b
    else
      let b := { b with waits := b.waits + 1 }
      if b.allConfirmed n then .quiet (.ok true) b
      else
        let (settled, heard, b) := (b.lull timeout).watch
          (fun a heard b => (a.1 ++ heard, b)) (fun a => a.2.allConfirmed n) ([], b)
        ⟨.ok settled, heard, [], b⟩

/-- Lets time pass. -/
def sleep (b : Broker) (time : Span) : Answer Unit :=
  let (heard, b) := (b.lull time).toEnd
  ⟨.ok (), heard, [], b⟩

/-- Ends a session: what it did not report yet is lost. -/
def shut (b : Broker) (n : Nat) : Broker :=
  let b := b.update n Session.shut
  { b with
    closed := b.closed + 1
    ready := b.ready.filter (· ≠ n)
    due := b.due.mapValues fun _ ns => ns.filter (· ≠ n) }

/-- Closes a session, once. -/
def close (b : Broker) (n : Nat) : Answer Unit :=
  match b.openSession? n with
  | .error fault => .quiet (.error fault) b
  | .ok _ => ⟨.ok (), [], [.sessionClosed n], b.shut n⟩

/-- Gives a session up, closed or not. -/
def discard (b : Broker) (n : Nat) : Answer Unit :=
  match b.openSession? n with
  | .error _ => .quiet (.ok ()) b
  | .ok _ => ⟨.ok (), [], [.sessionClosed n], b.shut n⟩

end Broker

end ConfirmedDelivery
