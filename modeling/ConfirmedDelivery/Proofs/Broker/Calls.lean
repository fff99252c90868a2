import ConfirmedDelivery.Proofs.Broker.Passes

/-!
# What calls on a broker do

A call fails, and then little has changed, or it does one thing to one session. Sending a message
puts it last in what the session is to take in, with the ruling of the script (`transmit_cases`).
-/

namespace ConfirmedDelivery.Broker

theorem wake_eq (b : Broker) (n : Nat) : ∃ ready, b.wake n = { b with ready } := by
  unfold wake
  split_ifs
  · exact ⟨b.ready, rfl⟩
  · exact ⟨b.ready ++ [n], rfl⟩

theorem shut_eq (b : Broker) (n : Nat) : ∃ closed ready due, b.shut n
    = { b with sessions := (b.update n Session.shut).sessions, closed, ready, due } := by
  unfold shut
  rw [update_eq]
  exact ⟨_, _, _, rfl⟩

theorem session?_shut (b : Broker) (n m : Nat) : (b.shut n).session? m
    = if n = m then (b.session? m).map Session.shut else b.session? m := session?_updated rfl m

theorem opened_update (b : Broker) (n : Nat) (f : Session → Session) :
    (b.update n f).opened = b.opened := by
  cases n with
  | zero => rfl
  | succ n => exact List.length_modify ..

theorem opened_updated {b b' : Broker} {n : Nat} {f : Session → Session}
    (h : b'.sessions = (b.update n f).sessions) : b'.opened = b.opened :=
  (congrArg List.length h).trans (opened_update b n f)

theorem opened_change (b : Broker) (n : Nat) (f : Session → Session)
    (queues : Dict String (List Delivery)) (confirms : List ConfirmRecord) :
    (b.change n f queues confirms).opened = b.opened := opened_updated rfl

theorem openSession?_of_session {b : Broker} {n : Nat} {s : Session} (h : b.session? n = some s)
    (hopen : s.closed = false) : b.openSession? n = .ok s := by
  unfold openSession?
  rw [h]
  simp only [hopen, Bool.false_eq_true, ↓reduceIte]

theorem openSession?_closed {b : Broker} {n : Nat} {s : Session} (hs : b.session? n = some s)
    (hclosed : s.closed = true) : b.openSession? n = .error .sessionClosed := by
  unfold openSession?
  rw [hs]
  simp only [hclosed, ↓reduceIte]

theorem session?_of_openSession? {b : Broker} {n : Nat} {s : Session}
    (h : b.openSession? n = .ok s) : b.session? n = some s ∧ s.closed = false := by
  unfold Broker.openSession? at h
  split at h
  · cases h
  next s' hs =>
    split_ifs at h with hopen
    cases h
    exact ⟨hs, Bool.eq_false_iff.2 hopen⟩

/-- A session whose confirms were turned on at the broker `b`. -/
def Session.enabled (b : Broker) (s : Session) : Session :=
  { s with confirming := true, reporting := b.reporting, delay := b.delay, nextTag := 1 }

theorem enableConfirms_eq {b : Broker} {n : Nat} {s : Session} (hs : b.session? n = some s)
    (hopen : s.closed = false) (hoff : s.confirming = false) :
    b.enableConfirms n = .quiet (.ok ())
      { b with sessions := (b.update n (Session.enabled b)).sessions, ready := b.ready ++ [n] } := by
  unfold enableConfirms
  rw [openSession?_of_session hs hopen]
  simp only [hoff, Bool.false_eq_true, ↓reduceIte]
  cases n <;> rfl

theorem awaitConfirms_closed {b : Broker} {n : Nat} {fault : LinkFault}
    (hs : b.openSession? n = .error fault) (timeout : Span) :
    b.awaitConfirms n timeout = .quiet (.error fault) b := by
  unfold awaitConfirms
  rw [hs]

theorem awaitConfirms_off {b : Broker} {n : Nat} {s : Session} (hs : b.openSession? n = .ok s)
    (hoff : s.confirming = false) (timeout : Span) :
    b.awaitConfirms n timeout = .quiet (.error .confirmModeRequired) b := by
  unfold awaitConfirms
  rw [hs]
  simp only [hoff, Bool.not_false, ↓reduceIte]

theorem awaitConfirms_on {b : Broker} {n : Nat} {s : Session} (hs : b.openSession? n = .ok s)
    (hon : s.confirming = true) (timeout : Span) :
    let b' := { b with waits := b.waits + 1 }
    let r := (b'.lull timeout).watch (fun a heard b => (a.1 ++ heard, b))
      (fun a => a.2.allConfirmed n) ([], b')
    b.awaitConfirms n timeout
      = if b'.allConfirmed n then .quiet (.ok true) b' else ⟨.ok r.1, r.2.1, [], r.2.2⟩ := by
  unfold awaitConfirms
  rw [hs]
  simp only [hon, Bool.not_true, Bool.false_eq_true, ↓reduceIte]

/-- The broker with one more session. -/
def push (b : Broker) (s : Session) : Broker := { b with sessions := b.sessions ++ [s] }

theorem opened_push (b : Broker) (s : Session) : (b.push s).opened = b.opened + 1 := by
  change (b.sessions ++ [s]).length = b.sessions.length + 1
  rw [List.length_append, List.length_singleton]

theorem session?_push (b : Broker) (s : Session) (m : Nat) :
    (b.push s).session? m = if m = b.opened + 1 then some s else b.session? m := by
  cases m with
  | zero => rfl
  | succ m =>
    change (b.sessions ++ [s])[m]? = if m + 1 = b.sessions.length + 1 then _ else b.sessions[m]?
    rw [List.getElem?_append]
    split_ifs with hlt heq heq
    · omega
    · rfl
    · have hm : m - b.sessions.length = 0 := by omega
      rw [hm]
      rfl
    · have hout : 1 ≤ m - b.sessions.length := by omega
      rw [List.getElem?_eq_none hout, List.getElem?_eq_none (by omega)]

/-- Opening a session fails with no effect where sessions are refused; else there is one more. -/
theorem openSession_cases (b : Broker) :
    (b.disconnected = true
        ∧ b.openSession = .quiet (.error (.connectionClosed "broker disconnected")) b)
      ∨ b.disconnected = false ∧ b.openSession = ⟨.ok (b.opened + 1), [],
        [.sessionOpened (b.opened + 1)], b.push (.opened b.script)⟩ := by
  unfold openSession
  split_ifs with hdown
  · exact .inl ⟨hdown, rfl⟩
  · exact .inr ⟨Bool.eq_false_iff.2 hdown, rfl⟩

theorem openSession_ok {b : Broker} {n : Nat} (h : b.openSession.answer = .ok n) :
    n = b.opened + 1 ∧ b.openSession.state = b.push (.opened b.script) := by
  rcases openSession_cases b with ⟨-, heq⟩ | ⟨-, heq⟩
  · rw [heq] at h
    cases h
  · rw [heq] at h
    exact ⟨(Except.ok.inj h).symm, congrArg Reply.state heq⟩

theorem session?_openSession {b : Broker} {n : Nat} (h : b.openSession.answer = .ok n) :
    b.openSession.state.session? n = some (.opened b.script) := by
  obtain ⟨rfl, hstate⟩ := openSession_ok h
  rw [hstate, session?_push, if_pos rfl]

/-- A session on which one more message was sent. -/
def Session.sent (d : Delivery) (s : Session) : Session :=
  { s with
    nextTag := s.nextTag + 1
    unconfirmed := s.unconfirmed + 1
    queue := s.queue ++ [⟨s.script d, d⟩] }

/-- The tag after one more message. -/
theorem tag_append {α : Type} (done : List α) (a : α) :
    UInt64.ofNat ((done ++ [a]).length + 1) = UInt64.ofNat (done.length + 1) + 1 := by
  rw [List.length_append, List.length_singleton, UInt64.ofNat_add]
  rfl

/-- What is delivered when a message is sent on session `n` under the tag `tag`. -/
def sentAs (b : Broker) (n : Nat) (tag : Tag) (destination : String) (properties : Properties)
    (body : ByteArray) : Delivery :=
  ⟨n, tag, destination, Tally.count (Tally.bump properties.messageId b.attempts)
    properties.messageId, properties, body⟩

/-- Sending a message fails with no effect; or it is to be taken in; or, where confirms are off, it
is kept at once. -/
theorem transmit_cases (b : Broker) (n : Nat) (destination : String) (properties : Properties)
    (body : ByteArray) :
    (∃ fault transmits, b.transmit n destination properties body
        = .quiet (.error fault) { b with transmits })
      ∨ ∃ s transmits, b.session? n = some s ∧ s.closed = false
        ∧ let d := b.sentAs n s.nextTag destination properties body
          let notes := [.transmitted n s.nextTag destination]
          let attempts := Tally.bump properties.messageId b.attempts
          let deliveries := b.deliveries ++ [d]
          (s.confirming = true ∧ ∃ ready, b.transmit n destination properties body
            = ⟨.ok s.nextTag, [], notes,
              { b with
                sessions := (b.update n (Session.sent d)).sessions
                attempts, deliveries, transmits, ready }⟩)
          ∨ (s.confirming = false ∧ b.transmit n destination properties body
            = ⟨.ok 0, [], notes, { b with attempts, deliveries, transmits }.store d⟩) := by
  unfold transmit openSession?
  cases hs : b.session? n with
  | none => exact .inl ⟨_, b.transmits, rfl⟩
  | some s =>
    dsimp only
    cases hclosed : s.closed with
    | true => exact .inl ⟨_, b.transmits, rfl⟩
    | false =>
      simp only [Bool.false_eq_true, ↓reduceIte]
      split_ifs with hknown hlimit hconfirming
      · exact .inl ⟨_, b.transmits, rfl⟩
      · exact .inl ⟨_, b.transmits + 1, rfl⟩
      · refine .inr ⟨s, b.transmits + 1, rfl, hclosed, .inl ⟨hconfirming, ?_⟩⟩
        obtain ⟨ready, hwake⟩ := wake_eq _ n
        refine ⟨ready, ?_⟩
        rw [hwake]
        cases n <;> rfl
      · refine .inr ⟨s, b.transmits + 1, rfl, hclosed, .inr ⟨by simpa using hconfirming, rfl⟩⟩

end ConfirmedDelivery.Broker
