import ConfirmedDelivery.Proofs.Broker.Level
import ConfirmedDelivery.Proofs.Publisher

/-!
# Rounds on a broker

As long as nothing fails, a round on a broker is in step with what is to be sent (`InStep`): what it has
sent stands in the ledger, the books are square with the session, and what was accepted is kept. Every
call keeps it in step or leaves no doubt why it does not: sending fails only once the limit is reached
(`InStep.transmit`), and where there is no delay a wait is too long only for messages that are never
answered (`InStep.awaitConfirms`, `InStep.lull`).
-/

namespace ConfirmedDelivery.Broker

/-- The ledger with one session more. -/
def Ledger.open (l : Ledger) : Ledger := { l with opened := l.opened + 1 }

/-- The ledger when these messages were sent on the session opened last. -/
def Ledger.after (l : Ledger) (parcel : Message → Parcel) (messages : List Message) : Ledger :=
  { l with
    deliveries := l.deliveries ++ (sends parcel l.opened 1 l.attempts messages).map Prod.snd
    attempts := counted parcel l.attempts messages }

/-- A round on the first session opened since the broker was `before`, which has sent what is `done`;
of that, `taken` was taken in by a pass. What was accepted of it is kept, unless the queues were in
disorder before. -/
structure Underway (parcel : Message → Parcel) (before : Broker) (done : List Message)
    (declared : List String) (taken left : List (Message × Delivery)) (b : Broker)
    (books : Books Message) (s : Session) : Prop where
  sent : taken ++ left = sends parcel (before.opened + 1) 1 before.attempts done
  ledger : b.ledger = before.ledger.open.after parcel done
  transmits : b.transmits = before.transmits + done.length
  room : ∀ most ∈ before.limit, done.length ≤ most - before.transmits
  level : Level before.script (before.opened + 1) (UInt64.ofNat (done.length + 1)) taken left b s
  delay : s.delay = before.delay
  squares : Squares before.script taken left books
  declared : ∀ d ∈ declared, b.queues.contains d = true
  known : Known b
  kept : OfItself before →
    Course before (accepted (taken.map (ruledBy before.script))) (before.opened + 1) b

/-- A round that is under way on this session, which is ready to pass if that is of any use. -/
structure InStep (parcel : Message → Parcel) (before : Broker) (done : List Message)
    (declared : List String) (c : Client) (books : Books Message)
    (taken left : List (Message × Delivery)) (s : Session) : Prop
    extends Underway parcel before done declared taken left c.broker books s where
  session : c.session = before.opened + 1
  awake : left = [] ∨ before.opened + 1 ∈ c.broker.ready

theorem ends_call {α : Type} {c : Client} (op : Broker → Nat → Answer α) {a : α}
    {heard : List Heard} {notes : List Event} {b : Broker} {books : Books Message}
    {ok : α → Client → Books Message → Prop} {fail : LinkFault → Client → Books Message → Prop}
    (h : op c.broker c.session = ⟨.ok a, heard, notes, b⟩)
    (hok : ok a ⟨b, c.session⟩ (books.handleAll (Client.confirmsOf c.session heard))) :
    (c.call op).Ends books ok fail := by
  unfold Client.call
  rw [h]
  exact hok

theorem ends_call_fault {α : Type} {c : Client} (op : Broker → Nat → Answer α) {fault : LinkFault}
    {b : Broker} {books : Books Message} {ok : α → Client → Books Message → Prop}
    {fail : LinkFault → Client → Books Message → Prop}
    (h : op c.broker c.session = .quiet (.error fault) b) (hfail : fail fault ⟨b, c.session⟩ books) :
    (c.call op).Ends books ok fail := by
  unfold Client.call
  rw [h]
  exact hfail

section Steps

variable {parcel : Message → Parcel} {before : Broker} {done : List Message}
  {declared : List String} {c : Client} {books : Books Message}
  {taken left : List (Message × Delivery)} {s : Session}

theorem InStep.openSession? (h : InStep parcel before done declared c books taken left s) :
    c.broker.openSession? c.session = .ok s := by
  rw [h.session]
  exact openSession?_of_session h.level.session h.level.inUse.unclosed

/-- That a round is under way, whatever its session has come to. -/
abbrev Runs (parcel : Message → Parcel) (before : Broker) (done : List Message)
    (declared : List String) (taken left : List (Message × Delivery)) (b : Broker)
    (books : Books Message) : Prop :=
  ∃ s, Underway parcel before done declared taken left b books s

theorem steady_runs : Steady (before.opened + 1) (Runs parcel before done declared taken left) where
  clock waits now ready due := fun ⟨s, h⟩ hfree hknown => ⟨s, h.sent, h.ledger, h.transmits, h.room,
    h.level.congr (session?_congr rfl _) hfree, h.delay, h.squares, h.declared,
    hknown h.known, fun hown => (h.kept hown).clock waits now ready due⟩
  pass_other {b _ m} k := fun ⟨s, h⟩ hm => by
    have hledger := ledger_passFirst b k m
    refine ⟨s, h.sent, hledger.trans h.ledger, (transmits_passFirst b k m).trans h.transmits, h.room,
      h.level.pass_other hm k, h.delay, h.squares, fun d hd => contains_passFirst (h.declared d hd) k m,
      h.known.mono (fun n hn => ?_) (opened_of_ledger hledger).ge,
      fun hown => (h.kept hown).pass_other hm k⟩
    unfold scheduled at hn
    rwa [due_passFirst] at hn

/-- What is accepted of messages is accepted of what was sent of them. -/
theorem accepted_ruledBy {rules : Script} {d : Delivery} {xs : List (Message × Delivery)}
    (hd : d ∈ accepted (xs.map (ruledBy rules))) : rules d = .ack ∧ ∃ x ∈ xs, x.2 = d := by
  obtain ⟨y, hy, rfl⟩ := List.mem_map.1 hd
  obtain ⟨hy, hack⟩ := List.mem_filter.1 hy
  obtain ⟨x, hx, rfl⟩ := List.mem_map.1 hy
  exact ⟨of_decide_eq_true hack, x, hx, rfl⟩

theorem accepted_ignored (rules : Script) (xs : List (Message × Delivery)) :
    accepted ((ignored rules xs).map (ruledBy rules)) = [] := by
  refine List.eq_nil_iff_forall_not_mem.2 fun d hd => ?_
  obtain ⟨hack, x, hx, rfl⟩ := accepted_ruledBy hd
  rw [of_decide_eq_true (List.mem_filter.1 hx).2] at hack
  cases hack

/-- When the session in use begins its pass without delay, what it accepts is kept. -/
theorem Underway.keeps {b : Broker} (h : Underway parcel before done declared taken left b books s)
    (hprompt : before.delay.nanos = 0) (hown : OfItself before) :
    Course before (accepted ((taken ++ left).map (ruledBy before.script))) (before.opened + 1)
      (b.beginPass (before.opened + 1)).1 := by
  have hcourse := h.kept hown
  unfold beginPass
  rw [h.level.session]
  dsimp only
  split_ifs with hempty hdelay
  · have hqueue := List.isEmpty_iff.1 hempty
    rw [h.level.queue, List.map_eq_nil_iff] at hqueue
    rwa [hqueue, List.append_nil]
  · have hvalues := h.level.values_accept h.squares
    have haccepted : accepted ((ignored before.script taken ++ left).map (ruledBy before.script))
        = accepted (left.map (ruledBy before.script)) := by
      rw [List.map_append, accepted_append, accepted_ignored, List.nil_append]
    rw [List.map_append, accepted_append, ← haccepted, ← hvalues, Broker.pass, h.level.queued]
    refine hcourse.pass_own h.level.session _ fun d hd => ?_
    rw [hvalues, haccepted] at hd
    obtain ⟨hack, x, hx, rfl⟩ := accepted_ruledBy hd
    have hmem : x ∈ sends parcel (before.opened + 1) 1 before.attempts done := by
      rw [← h.sent]
      exact List.mem_append_right _ hx
    rw [session_of_sends hmem]
    exact ⟨Nat.lt_succ_self _, hack⟩
  · rw [h.delay] at hdelay
    exact absurd hprompt hdelay

/-- The pass of the session in use takes in everything that was sent. -/
theorem begins_runs (hprompt : before.delay.nanos = 0) :
    Begins (before.opened + 1) (Runs parcel before done declared taken left)
      (Runs parcel before done declared (taken ++ left) []) := fun {b _} ⟨s, h⟩ => by
  obtain ⟨s', hdelay, hlevel, hsquares⟩ := h.level.begin h.squares (by rwa [h.delay])
  have hidle := interlude_beginPass b (before.opened + 1)
  exact ⟨s', by rw [List.append_nil]; exact h.sent, hidle.ledger.trans h.ledger,
    hidle.transmits.trans h.transmits, h.room, hlevel, hdelay.trans h.delay,
    hsquares, fun d hd => hidle.contains (h.declared d hd), known_beginPass h.known _, h.keeps hprompt⟩

theorem again_runs (hprompt : before.delay.nanos = 0) :
    Begins (before.opened + 1) (Runs parcel before done declared taken [])
      (Runs parcel before done declared taken []) := fun h => by
  have hagain := begins_runs hprompt h
  rwa [List.append_nil] at hagain

/-- Before a wait there is something for the session to take in, or nothing is left. -/
theorem InStep.waits (h : InStep parcel before done declared c books taken left s) :
    Runs parcel before done declared (taken ++ left) [] c.broker books
      ∨ Runs parcel before done declared taken left c.broker books
        ∧ before.opened + 1 ∈ c.broker.ready := by
  rcases h.awake with rfl | hready
  · rw [List.append_nil]
    exact .inl ⟨s, h.toUnderway⟩
  · exact .inr ⟨⟨s, h.toUnderway⟩, hready⟩

/-- Everything is answered for when nothing is left and nothing was withheld. -/
theorem Underway.allConfirmed {b : Broker}
    (h : Underway parcel before done declared taken left b books s) :
    b.allConfirmed (before.opened + 1) = decide (ignored before.script taken ++ left = []) := by
  unfold Broker.allConfirmed
  rw [h.level.session, Option.map_some, Option.getD_some, h.level.unconfirmed]
  cases ignored before.script taken ++ left <;> rfl

/-- A wait for confirms takes in what was sent, and is in time unless something is never answered. -/
theorem InStep.awaitConfirms (h : InStep parcel before done declared c books taken left s)
    (hprompt : before.delay.nanos = 0) {timeout : Span} (htimeout : timeout.nanos ≠ 0) :
    (Client.link.awaitConfirms timeout c).Ends books
      (fun inTime c books => inTime = decide (ignored before.script (taken ++ left) = [])
        ∧ ∃ s, InStep parcel before done declared c books (taken ++ left) [] s)
      (fun _ _ _ => False) := by
  have hopen := h.openSession?
  rw [h.session] at hopen
  obtain ⟨heard, b', heq, s', h'⟩ := steady_runs.awaits steady_runs (begins_runs hprompt)
    (again_runs hprompt) h.level.unscheduled (fun ⟨_, h⟩ => h.level.unscheduled)
    (decide (ignored before.script (taken ++ left) = []))
    (fun ⟨s, h⟩ => by rw [h.allConfirmed, List.append_nil])
    (fun ⟨s, h⟩ hall => by
      rw [h.allConfirmed, decide_eq_true_eq, List.append_eq_nil_iff] at hall
      obtain ⟨-, rfl⟩ := hall
      rw [List.append_nil]
      exact ⟨s, h⟩)
    htimeout hopen h.level.inUse.confirming h.waits
  rw [← h.session] at heq
  refine ends_call (fun b n => b.awaitConfirms n timeout) heq ⟨rfl, s', ?_, h.session, .inl rfl⟩
  rw [h.session]
  exact h'

theorem InStep.lull (h : InStep parcel before done declared c books taken left s)
    (hprompt : before.delay.nanos = 0) {timeout : Span} (htimeout : timeout.nanos ≠ 0) :
    (Client.link.lull timeout c).Keeps
      (fun c books => ∃ s, InStep parcel before done declared c books (taken ++ left) [] s)
      (fun c books => books.inFlight.drained = false
        ∧ ∃ s, InStep parcel before done declared c books (taken ++ left) [] s) books := by
  have hkeeps := steady_runs.lull steady_runs (begins_runs hprompt) (again_runs hprompt)
    h.level.unscheduled (fun ⟨_, h⟩ => h.level.unscheduled) htimeout h.waits
  rw [← h.session] at hkeeps
  refine hkeeps.imp (fun c _ ⟨hsession, s, hs⟩ => ⟨s, hs, hsession.trans h.session, .inl rfl⟩)
    fun c _ ⟨hsession, ⟨s, hs⟩, hopen⟩ => ⟨hopen, s, hs, hsession.trans h.session, .inl rfl⟩

theorem InStep.declare (h : InStep parcel before done declared c books taken left s)
    (destination : String) :
    (Client.link.declare destination c).Ends books
      (fun _ c books => InStep parcel before done (destination :: declared) c books taken left s)
      (fun _ _ _ => False) := by
  let b : Broker := { c.broker with
    queues := c.broker.queues.insert destination (c.broker.stored destination) }
  have heq : c.broker.declare c.session destination = ⟨.ok (), [], [], b⟩ := by
    unfold Broker.declare
    rw [h.openSession?]
    rfl
  refine ends_call (fun b n => b.declare n destination) heq ⟨⟨h.sent, h.ledger, h.transmits, h.room,
    h.level.congr (session?_congr rfl _) id, h.delay, h.squares, fun d hd => ?_, h.known,
    fun hown => (h.kept hown).congr (fun q => ?_) rfl rfl fun m _ => session?_congr rfl m⟩,
    h.session, h.awake⟩
  · change (c.broker.queues.insert destination _).contains d = true
    rw [Dict.contains_insert]
    rcases List.mem_cons.1 hd with rfl | hd
    · simp
    · rw [h.declared d hd, Bool.or_true]
  · exact stored_declare c.broker destination q

/-- The next tag is beyond all tags in flight. -/
theorem InStep.lt_next (h : InStep parcel before done declared c books taken left s)
    (hlen : done.length + 1 < 2 ^ 64) :
    ∀ e ∈ books.unanswered, e.1 < UInt64.ofNat (done.length + 1) := by
  intro e he
  rw [h.squares.unanswered] at he
  obtain ⟨x, hx, rfl⟩ := List.mem_map.1 he
  have hmem : x ∈ sends parcel (before.opened + 1) 1 before.attempts done := by
    rw [← h.sent]
    exact (List.mem_append.1 hx).elim
      (fun hx => List.mem_append_left _ (List.mem_of_mem_filter hx)) (List.mem_append_right _)
  exact tag_lt_of_sends hmem hlen

theorem InStep.nextTag (h : InStep parcel before done declared c books taken left s) :
    Client.link.nextTag c = UInt64.ofNat (done.length + 1) := by
  change ((c.broker.session? c.session).map Session.nextTag).getD 0 = _
  rw [h.session, h.level.session]
  exact h.level.inUse.nextTag

/-- What is sent next is what the turn sends next. -/
theorem InStep.sends_next (h : InStep parcel before done declared c books taken left s)
    (m : Message) :
    sends parcel (before.opened + 1) 1 before.attempts (done ++ [m])
      = sends parcel (before.opened + 1) 1 before.attempts done
        ++ [(m, c.broker.sentAs (before.opened + 1) s.nextTag (parcel m).destination
          (parcel m).properties (parcel m).body)] := by
  have hattempts : c.broker.attempts = counted parcel before.attempts done :=
    congrArg Ledger.attempts h.ledger
  have htag : (1 : Tag) + UInt64.ofNat done.length = s.nextTag := by
    rw [h.level.inUse.nextTag, Nat.add_comm, UInt64.ofNat_add]
    rfl
  rw [sends_append, htag, ← hattempts]
  rfl

/-- The ledger with one message more. -/
theorem InStep.after_next (h : InStep parcel before done declared c books taken left s)
    (m : Message) :
    before.ledger.open.after parcel (done ++ [m]) = { before.ledger.open.after parcel done with
      deliveries := c.broker.deliveries ++ [c.broker.sentAs (before.opened + 1) s.nextTag
        (parcel m).destination (parcel m).properties (parcel m).body]
      attempts := c.broker.attempts.bump (parcel m).properties.messageId } := by
  have hdeliveries : c.broker.deliveries = (before.ledger.open.after parcel done).deliveries :=
    congrArg Ledger.deliveries h.ledger
  have hattempts : c.broker.attempts = (before.ledger.open.after parcel done).attempts :=
    congrArg Ledger.attempts h.ledger
  have hcounted : counted parcel before.attempts (done ++ [m])
      = (counted parcel before.attempts done).bump (parcel m).properties.messageId :=
    List.foldl_append
  have hsends := h.sends_next m
  rw [hdeliveries, hattempts]
  unfold Ledger.after
  change (⟨_, _, _, _, before.deliveries
    ++ (sends parcel (before.opened + 1) 1 before.attempts (done ++ [m])).map Prod.snd,
    counted parcel before.attempts (done ++ [m]), _⟩ : Ledger) = _
  rw [hsends, hcounted, List.map_append, ← List.append_assoc]
  rfl

/-- Sending what was recorded under the next tag keeps the round in step, or the limit is reached and
nothing else happens. -/
theorem InStep.transmit (h : InStep parcel before done declared c books taken left s) {m : Message}
    {books' : Books Message} (hlen : done.length + 1 < 2 ^ 64)
    (hdeclared : (parcel m).destination ∈ declared)
    (hadd : books.add? (UInt64.ofNat (done.length + 1)) m = some books') :
    (Client.link.transmit (parcel m).destination (parcel m).properties (parcel m).body c).Ends books'
      (fun tag c books => tag = UInt64.ofNat (done.length + 1)
        ∧ ∃ x s, InStep parcel before (done ++ [m]) declared c books taken (left ++ [x]) s)
      (fun fault c' _ => fault = .connectionClosed "connection reset during transmit"
        ∧ before.limit.map (· - before.transmits) = some done.length
        ∧ c' = ⟨{ c.broker with transmits := c.broker.transmits + 1 }, c.session⟩) := by
  have hlimit : c.broker.limit = before.limit := congrArg Ledger.limit h.ledger
  have hnext := h.level.inUse.nextTag
  have hlast := h.lt_next hlen
  have hsends := h.sends_next m
  have hafter := h.after_next m
  have hopen := h.level.inUse.unclosed
  by_cases hroom : ∀ most ∈ before.limit, c.broker.transmits < most
  · obtain ⟨ready, hready, heq⟩ := transmit_eq h.level.session hopen h.level.inUse.confirming
      (by rwa [hlimit]) (h.declared _ hdeclared) h.level.unscheduled (parcel m).properties
      (parcel m).body
    obtain ⟨b, n⟩ := c
    obtain rfl : n = before.opened + 1 := h.session
    let n := before.opened + 1
    let d := b.sentAs n s.nextTag (parcel m).destination (parcel m).properties (parcel m).body
    refine ends_call (fun b n => b.transmit n _ _ _) heq ⟨hnext, (m, d), s.sent d,
      ⟨?_, ?_, ?_, fun most hmost => ?_, ?_, h.delay, ?_, h.declared, h.known.update n rfl rfl,
        fun hown => (h.kept hown).updated (f := Session.sent d) rfl rfl rfl⟩, rfl, .inr hready⟩
    · rw [← List.append_assoc, h.sent, hsends]
    · rw [hafter, ← h.ledger]
      exact congrArg (fun k => ({ b.ledger with
        deliveries := b.deliveries ++ [d]
        attempts := b.attempts.bump (parcel m).properties.messageId
        opened := k } : Ledger)) (opened_update b n (Session.sent d))
    · rw [List.length_append, List.length_singleton, ← Nat.add_assoc, ← h.transmits]
    · have := hroom most hmost
      rw [h.transmits] at this
      rw [List.length_append, List.length_singleton]
      omega
    · rw [tag_append]
      exact h.level.sent m rfl rfl rfl
    · rw [← hnext] at hlast hadd
      exact h.squares.recorded hlast hadd
  · push Not at hroom
    obtain ⟨most, hmost, hfull⟩ := hroom
    have hroom := h.room most hmost
    rw [h.transmits] at hfull
    refine ends_call_fault (fun b n => b.transmit n _ _ _) (transmit_full ?_ hopen
      (hlimit.trans hmost) (h.transmits ▸ hfull) (h.declared _ hdeclared) _ _) ⟨rfl, ?_, rfl⟩
    · rw [h.session]
      exact h.level.session
    · rw [hmost, Option.map_some]
      exact congrArg some (by omega)

end Steps

section Opening

variable {c : Client}

theorem openSession_eq (hconnected : c.broker.disconnected = false) :
    Client.link.openSession c = ⟨.ok (), [], [.sessionOpened (c.broker.opened + 1)],
      ⟨c.broker.push (.opened c.broker.script), c.broker.opened + 1⟩⟩ := by
  change Client.openSession c = _
  unfold Client.openSession Broker.openSession
  rw [if_neg (by rw [hconnected]; decide)]
  rfl

/-- A session that is opened and listened to is the only thing new in the ledger. -/
theorem listen_push (b : Broker) (s : Session) (listener : Nat) :
    ((b.push s).listen (b.opened + 1) listener).session? (b.opened + 1)
        = some { s with listener := some listener }
      ∧ ((b.push s).listen (b.opened + 1) listener).ledger = b.ledger.open
      ∧ ((b.push s).listen (b.opened + 1) listener).scheduled = b.scheduled := by
  unfold Broker.listen
  refine ⟨?_, ?_, ?_⟩
  · rw [session?_update, if_pos rfl, session?_push, if_pos rfl]
    rfl
  · refine (ledger_updated rfl (by rw [update_eq]; rfl)).trans ?_
    exact congrArg (fun k => ({ b.ledger with opened := k } : Ledger)) (opened_push b s)
  · rw [update_eq]
    rfl

theorem after_nil (l : Ledger) (parcel : Message → Parcel) : l.after parcel [] = l :=
  congrArg (fun ds => ({ l with deliveries := ds } : Ledger)) (List.append_nil l.deliveries)

/-- With its confirms turned on, a new session is in step. -/
theorem enable_inStep (parcel : Message → Parcel) (hconnected : c.broker.disconnected = false)
    (hknown : Known c.broker) :
    (Client.link.enableConfirms (Client.link.listen (Client.link.openSession c).state)).Ends ∅
      (fun _ c' books => ∃ s, InStep parcel c.broker [] [] c' books [] [] s)
      (fun _ _ _ => False) := by
  let n := c.broker.opened + 1
  let s : Session := { Session.opened c.broker.script with listener := some 0 }
  let b := (c.broker.push (.opened c.broker.script)).listen n 0
  obtain ⟨hs, hledger, hscheduled⟩ : b.session? n = some s ∧ b.ledger = c.broker.ledger.open
    ∧ b.scheduled = c.broker.scheduled := listen_push c.broker _ 0
  have hopened : b.opened = c.broker.opened + 1 := congrArg Ledger.opened hledger
  have hdelay : b.delay = c.broker.delay := congrArg Ledger.delay hledger
  have hnew : Known b := by
    refine hknown.mono (fun _ hm => hscheduled ▸ hm) ?_
    rw [hopened]
    exact Nat.le_succ _
  have hfresh : n ∉ b.scheduled := fun hn =>
    absurd (hknown n (hscheduled ▸ hn)) (Nat.not_succ_le_self _)
  have heq := enableConfirms_eq hs rfl rfl
  rw [openSession_eq hconnected]
  refine ends_call Broker.enableConfirms heq ⟨s.enabled b, ⟨rfl, ?_, rfl, fun _ _ => Nat.zero_le _, ?_, hdelay,
    ⟨rfl, rfl, rfl, Books.current_empty⟩, fun _ hd => absurd hd List.not_mem_nil,
    hnew.update n rfl rfl, fun hown => ?_⟩, rfl, .inl rfl⟩
  · rw [after_nil, ← hledger]
    exact ledger_updated rfl rfl
  · refine ⟨?_, ⟨⟨0, rfl⟩, rfl, rfl, rfl, rfl, ?_, ?_, ?_⟩, rfl, rfl, rfl, hfresh⟩
    · refine (session?_updated (n := n) (f := Session.enabled b) rfl n).trans ?_
      rw [if_pos rfl, hs]
      rfl
    · exact fun e he => absurd he List.not_mem_nil
    · exact fun x hx => absurd hx List.not_mem_nil
    · exact fun x hx => absurd hx List.not_mem_nil
  · have hanswer : c.broker.openSession.answer = .ok n := by
      unfold Broker.openSession
      rw [if_neg (by rw [hconnected]; decide)]
      rfl
    have hstate : c.broker.openSession.state = c.broker.push (.opened c.broker.script) := by
      unfold Broker.openSession
      rw [if_neg (by rw [hconnected]; decide)]
      rfl
    obtain ⟨_, hnew⟩ := (course_start hown).openSession hanswer
    rw [hstate] at hnew
    exact (hnew.listen 0).course.updated (f := Session.enabled b) rfl rfl rfl

end Opening

end ConfirmedDelivery.Broker
