import ConfirmedDelivery.Proofs.Broker.Matching
import ConfirmedDelivery.Proofs.Broker.Stopping

/-!
# Waits that the delay outlasts

If a wait is over before the delay is, the session in use does not report during it (`Active.blocked`).
So a round fails with its first wait, when it has sent its first batch or, if it is streaming, all
messages; of what it sent nothing is answered and nothing is kept (`conduct_strands`).
-/

namespace ConfirmedDelivery

namespace Settings

variable (settings : Settings)

/-- What a round sends before its first wait. -/
def opening (messages : List Message) : List Message :=
  if settings.pacing = .streaming then messages else messages.take settings.chunkSize

/-- How long it waits for the confirms of what it sent. -/
def confirmWait : Span :=
  if settings.pacing = .streaming then settings.timeout else settings.batchConfirmTimeout

theorem confirmWait_streaming {settings : Settings} (h : settings.pacing = .streaming) :
    settings.confirmWait = settings.timeout := if_pos h

theorem confirmWait_batch {settings : Settings} (h : settings.pacing ≠ .streaming) :
    settings.confirmWait = settings.batchConfirmTimeout := if_neg h

/-- What the round fails with if none of the `n` messages sent is answered by then. -/
def unanswered (n : Nat) : Failure :=
  if settings.pacing = .streaming then .confirmationTimeout n settings.timeout
  else .batchConfirmTimeout 1 settings.batchConfirmTimeout

end Settings

namespace Broker

/-! ## Blocked waits -/

section Blocked

variable {P : Nat → Bool} {wait n : Nat} {delay timeout : Span} {b : Broker} {s : Session}

/-- The session in use does not report as long as its delay lasts. -/
theorem Active.blocked (h : Active P wait n delay b s) (hqueue : s.queue ≠ []) (hready : n ∈ b.ready)
    (hfree : n ∉ b.scheduled) (hshort : timeout.waitMillis ≤ delay.waitMillis)
    (books : Books Message) :
    Rests n (Standing P wait n delay (fun s => s.queue ≠ []) (b.excerpt P n) books) books
      (b.lull timeout) := by
  have hstanding := h.standing (X := fun s => s.queue ≠ []) hqueue books
  by_cases htimeout : timeout.nanos = 0
  · obtain rfl : timeout = .zero := congrArg Span.mk htimeout
    rw [lull_zero b]
    exact hstanding
  · have hdelay := nanos_ne_zero ((waitMillis_pos htimeout).trans_le hshort)
    exact aloof_standing.blocked slow_standing hdelay hshort htimeout hstanding hfree hready

theorem Active.awaitConfirms_blocked (h : Active P wait n delay b s) (hqueue : s.queue ≠ [])
    (hready : n ∈ b.ready) (hfree : n ∉ b.scheduled)
    (hshort : timeout.waitMillis ≤ delay.waitMillis) :
    let r := b.awaitConfirms n timeout
    r.answer = .ok false ∧ (∃ s, Used P wait n r.state s) ∧ r.state.excerpt P n = b.excerpt P n := by
  let b₁ : Broker := { b with waits := b.waits + 1 }
  have h₁ : Active P wait n delay b₁ s :=
    h.congr (h.toBrisk.clock (b.waits + 1) b.now b.ready b.due id) (session?_congr rfl n)
  have he : b₁.excerpt P n = b.excerpt P n := excerpt_clock ..
  have hopen {b' : Broker} {books' : Books Message}
      (hb' : Standing P wait n delay (fun s => s.queue ≠ []) (b₁.excerpt P n) ∅ b' books') :
      b'.allConfirmed n = false := by
    obtain ⟨⟨s', hs', hqueue'⟩, -⟩ := hb'
    have hcounted := hs'.counted
    have hlength := List.length_pos_of_ne_nil hqueue'
    unfold Broker.allConfirmed
    rw [hs'.session]
    exact beq_eq_false_iff_ne.2 (Nat.ne_of_gt (hlength.trans_le hcounted))
  obtain ⟨heard, b', hwatch, ⟨s', hs', -⟩, hb', -⟩ :=
    (h₁.blocked hqueue hready hfree hshort ∅).watch hopen [] b₁
  have hunconfirmed := hopen (h₁.standing (X := fun s => s.queue ≠ []) hqueue ∅)
  rw [awaitConfirms_on h.openSession? h.confirming, ← he]
  change (if b₁.allConfirmed n then _ else _ : Answer Bool).answer = _ ∧ _
  rw [hunconfirmed, if_neg Bool.false_ne_true, hwatch]
  exact ⟨rfl, ⟨s', hs'.toUsed⟩, hb'⟩

end Blocked

/-! ## Agreement -/

/-- What two brokers answered and kept is the same, as far as it belongs to sessions that `P` looks
at. -/
structure Agree (P : Nat → Bool) (b b' : Broker) : Prop where
  confirms : (b.confirms.filter fun r => P r.session) = b'.confirms.filter fun r => P r.session
  stored : ∀ q, ((b.stored q).filter fun d => P d.session)
    = (b'.stored q).filter fun d => P d.session

section Agree

variable {P : Nat → Bool} {b b' b'' : Broker} {n m : Nat}

theorem Agree.trans (h : Agree P b b') (h' : Agree P b' b'') : Agree P b b'' :=
  ⟨h.confirms.trans h'.confirms, fun q => (h.stored q).trans (h'.stored q)⟩

theorem agree_of_eq (hconfirms : b'.confirms = b.confirms) (hstored : ∀ q, b'.stored q = b.stored q) :
    Agree P b b' :=
  ⟨by rw [hconfirms], fun q => by rw [hstored]⟩

theorem agree_of_excerpt (h : b.excerpt P n = b'.excerpt P m) : Agree P b b' := by
  refine ⟨congrArg Excerpt.confirms h, fun q => ?_⟩
  have hqueues : keptBy P b.queues = keptBy P b'.queues := congrArg Excerpt.queues h
  unfold Broker.stored
  rw [← stored_keptBy, ← stored_keptBy, hqueues]

end Agree

/-! ## Rounds -/

/-- A round on the first session opened since the broker was `before`, which has sent what is `done`
and has not waited yet. -/
structure Unheard (P : Nat → Bool) (parcel : Message → Parcel) (before : Broker) (done : List Message)
    (declared : List String) (c : Client) (books : Books Message) : Prop where
  inStep : ∃ left s, InStep parcel before done declared c books [] left s
  busy : Busy P (before.delay.waitMillis + 1) c.session c.broker
  agree : Agree P before c.broker

/-- What a round leaves behind that has sent these messages and waited for them in vain. -/
structure Strands (P : Nat → Bool) (parcel : Message → Parcel) (before : Broker)
    (first : List Message) (b : Broker) : Prop where
  deliveries : b.deliveries = before.deliveries
    ++ (sends parcel (before.opened + 1) 1 before.attempts first).map Prod.snd
  agree : Agree P before b

section Unheard

variable {P : Nat → Bool} {parcel : Message → Parcel} {before : Broker} {done : List Message}
  {declared : List String} {c : Client} {books books' : Books Message} {settings : Settings}

theorem enable_unheard (h : Brisk P (c.broker.delay.waitMillis + 1) 0 c.broker) :
    (Client.link.enableConfirms (Client.link.listen (Client.link.openSession c).state)).Ends ∅
      (fun _ => Unheard P parcel c.broker [] []) (fun _ _ _ => False) := by
  have hinStep := enable_inStep parcel h.connected h.known
  rw [openSession_eq h.connected] at hinStep ⊢
  let n := c.broker.opened + 1
  let b := (c.broker.push (.opened c.broker.script)).listen n 0
  obtain ⟨s, hs, hopen, hoff, hemptied⟩ := (h.push.listen 0).enableConfirms
  have hagree : Agree P c.broker (b.enableConfirms n).state := by
    rw [enableConfirms_eq hs hopen hoff]
    exact agree_of_eq rfl fun _ => rfl
  have hstate : Busy P (c.broker.delay.waitMillis + 1) n (b.enableConfirms n).state
    ∧ Agree P c.broker (b.enableConfirms n).state := ⟨hemptied.busy, hagree⟩
  exact (hinStep.and_state (Q := fun c' => Busy P (c.broker.delay.waitMillis + 1) c'.session c'.broker
    ∧ Agree P c.broker c'.broker) hstate).imp
      (fun _ _ _ ⟨⟨s, hs⟩, hbusy, hagree⟩ => ⟨⟨[], s, hs⟩, hbusy, hagree⟩) fun _ _ _ => And.left

theorem Unheard.declare (h : Unheard P parcel before done declared c books) (destination : String) :
    (Client.link.declare destination c).Ends books
      (fun _ => Unheard P parcel before done (destination :: declared)) (fun _ _ _ => False) := by
  obtain ⟨left, s, hs⟩ := h.inStep
  have heq : (Client.link.declare destination c).state = ⟨{ c.broker with
      queues := c.broker.queues.insert destination (c.broker.stored destination) }, c.session⟩ := by
    change (⟨(c.broker.declare c.session destination).state, c.session⟩ : Client) = _
    unfold Broker.declare
    rw [hs.openSession?]
    rfl
  refine ((hs.declare destination).and_state
    (Q := fun c' => Busy P (before.delay.waitMillis + 1) c'.session c'.broker
      ∧ Agree P before c'.broker) ?_).imp
      (fun _ _ _ ⟨hs, hbusy, hagree⟩ => ⟨⟨left, s, hs⟩, hbusy, hagree⟩) fun _ _ _ => And.left
  rw [heq]
  exact ⟨h.busy.declare destination,
    h.agree.trans (agree_of_eq rfl (stored_declare c.broker destination))⟩

theorem agree_transmit {n : Nat} {b : Broker} {wait : Nat} (h : Busy P wait n b) (destination : String)
    (properties : Properties) (body : ByteArray) :
    Agree P b (b.transmit n destination properties body).state := by
  obtain ⟨delay, s, hs, -, hfree⟩ := h
  -- a message is answered and kept when its session passes, not when it is sent
  rcases transmit_confirming hs.session hs.unclosed hs.confirming hfree destination properties body with
    ⟨-, heq⟩ | ⟨-, -, heq⟩ | ⟨-, -, _, -, heq⟩ <;>
  · rw [heq]
    exact agree_of_eq rfl fun _ => rfl

theorem Unheard.transmit (h : Unheard P parcel before done declared c books) {m : Message}
    (hlen : done.length + 1 < 2 ^ 64) (hdeclared : (parcel m).destination ∈ declared)
    (hadd : books.add? (UInt64.ofNat (done.length + 1)) m = some books') :
    (Client.link.transmit (parcel m).destination (parcel m).properties (parcel m).body c).Ends books'
      (fun tag c books => tag = UInt64.ofNat (done.length + 1)
        ∧ Unheard P parcel before (done ++ [m]) declared c books)
      (fun _ _ _ => before.limit.map (· - before.transmits) = some done.length) := by
  obtain ⟨left, s, hs⟩ := h.inStep
  let q := parcel m
  have hstate : Busy P (before.delay.waitMillis + 1) c.session
        (c.broker.transmit c.session q.destination q.properties q.body).state
      ∧ Agree P before (c.broker.transmit c.session q.destination q.properties q.body).state :=
    ⟨h.busy.transmit .., h.agree.trans (agree_transmit h.busy ..)⟩
  exact ((hs.transmit hlen hdeclared hadd).and_state
    (Q := fun c' => Busy P (before.delay.waitMillis + 1) c'.session c'.broker
      ∧ Agree P before c'.broker) hstate).imp
      (fun _ _ _ ⟨⟨htag, x, s, hs⟩, hbusy, hagree⟩ => ⟨htag, ⟨_, s, hs⟩, hbusy, hagree⟩)
      fun _ _ _ ⟨⟨_, hfull, _⟩, _⟩ => hfull

/-- A round that has sent something and not waited yet: its session is ready to pass, and everything is
in flight. -/
theorem Unheard.active (h : Unheard P parcel before done declared c books) (hsome : done ≠ []) :
    ∃ s, Active P (before.delay.waitMillis + 1) c.session before.delay c.broker s ∧ s.queue ≠ []
      ∧ c.session ∈ c.broker.ready ∧ c.session ∉ c.broker.scheduled
      ∧ books.inFlight.drained = false ∧ books.inFlight.size = done.length
      ∧ c.broker.deliveries = before.deliveries
        ++ (sends parcel (before.opened + 1) 1 before.attempts done).map Prod.snd := by
  obtain ⟨left, s, hs⟩ := h.inStep
  obtain ⟨delay, s', hs', hready, hfree⟩ := h.busy
  have hsession := hs.level.session
  rw [← hs.session] at hsession
  obtain rfl := Option.some.inj (hsession.symm.trans hs'.session)
  obtain rfl : delay = before.delay := hs'.delay_eq.symm.trans hs.delay
  have hlength : left.length = done.length := by
    have hsent := congrArg List.length hs.sent
    rwa [length_sends] at hsent
  have hleft : left ≠ [] := fun hnil => hsome <| List.eq_nil_of_length_eq_zero <| by
    rw [← hlength, hnil]
    rfl
  have hqueue : s.queue ≠ [] := by
    rw [hs.level.queue]
    exact fun hnil => hleft (List.map_eq_nil_iff.1 hnil)
  have hunanswered := hs.squares.unanswered
  rw [ignored, List.filter_nil, List.nil_append] at hunanswered
  refine ⟨s, hs', hqueue, hready.resolve_left hqueue, hfree, ?_, ?_, congrArg Ledger.deliveries hs.ledger⟩
  · refine Bool.eq_false_iff.2 fun hdrained => hleft ?_
    rw [(Books.drained_iff hs.squares.current).1 hdrained] at hunanswered
    exact List.map_eq_nil_iff.1 hunanswered.symm
  · have hsize := congrArg List.length hunanswered
    rwa [List.length_map, hlength] at hsize

/-- What it leaves behind if nothing is reported any more. -/
theorem Unheard.strands (h : Unheard P parcel before done declared c books) (hsome : done ≠ [])
    {b : Broker} (hexcerpt : b.excerpt P c.session = c.broker.excerpt P c.session) :
    Strands P parcel before done b := by
  obtain ⟨-, -, -, -, -, -, -, hdeliveries⟩ := h.active hsome
  have hsame : b.deliveries = c.broker.deliveries :=
    congrArg (fun e : Excerpt => e.ledger.deliveries) hexcerpt
  exact ⟨hsame.trans hdeliveries, h.agree.trans (agree_of_excerpt hexcerpt.symm)⟩

theorem Unheard.awaitConfirms (h : Unheard P parcel before done declared c books) (hsome : done ≠ [])
    {timeout : Span} (hshort : timeout.waitMillis ≤ before.delay.waitMillis) :
    (Client.link.awaitConfirms timeout c).Ends books
      (fun confirmed c _ => confirmed = false ∧ Strands P parcel before done c.broker
        ∧ ∃ s, Used P (before.delay.waitMillis + 1) c.session c.broker s)
      (fun _ _ _ => False) := by
  obtain ⟨s, hs, hqueue, hready, hfree, -⟩ := h.active hsome
  obtain ⟨hanswer, hused, hexcerpt⟩ := hs.awaitConfirms_blocked hqueue hready hfree hshort
  generalize hreply : c.broker.awaitConfirms c.session timeout = reply at hanswer hused hexcerpt
  obtain ⟨_, heard, notes, b⟩ := reply
  obtain rfl := hanswer
  exact ends_call (fun b n => b.awaitConfirms n _) hreply ⟨rfl, h.strands hsome hexcerpt, hused⟩

theorem Unheard.lull (h : Unheard P parcel before done declared c books) (hsome : done ≠ [])
    {timeout : Span} (hshort : timeout.waitMillis ≤ before.delay.waitMillis) :
    (Client.link.lull timeout c).Keeps (fun _ books => books.inFlight.drained = false)
      (fun c books => books.inFlight.size = done.length ∧ Strands P parcel before done c.broker
        ∧ ∃ s, Used P (before.delay.waitMillis + 1) c.session c.broker s) books := by
  obtain ⟨s, hs, hqueue, hready, hfree, hopen, hcount, -⟩ := h.active hsome
  have hblocked := hs.blocked hqueue hready hfree hshort books
  refine (hblocked.keeps ?_).imp ?_ ?_
  · rintro b books' ⟨-, -, rfl⟩
    exact hopen
  · rintro c' books' ⟨-, -, -, rfl⟩
    exact hopen
  · rintro c' books' ⟨hsession, ⟨⟨s, hs, -⟩, hexcerpt, rfl⟩, -⟩
    exact ⟨hcount, h.strands hsome hexcerpt, s, hsession ▸ hs.toUsed⟩

/-- A round whose first wait is over before the delay is fails with that wait. -/
theorem paced_strands {messages : List Message} {settings : Settings} (hsome : messages ≠ [])
    (hsize : 0 < settings.chunkSize) (hlen : messages.length < 2 ^ 64)
    (hbrisk : Brisk P (c.broker.delay.waitMillis + 1) 0 c.broker)
    (hshort : settings.confirmWait.waitMillis ≤ c.broker.delay.waitMillis)
    (hroom : ∀ most ∈ c.broker.limit,
      c.broker.transmits + (settings.opening messages).length ≤ most) :
    let before := c.broker
    Round.Paced Client.link settings messages (Client.link.openSession c).state
      (fun k done declared c books =>
        Unheard P settings.parcel before done declared c books ∧ k = done.length)
      (fun e _ c _ => e = settings.unanswered (settings.opening messages).length
        ∧ Strands P settings.parcel before (settings.opening messages) c.broker
        ∧ ∃ s, Used P (before.delay.waitMillis + 1) c.session c.broker s) := by
  intro before
  constructor
  case enable =>
    exact (enable_unheard hbrisk).imp (fun _ _ _ h => ⟨h, rfl⟩) fun _ _ _ hfalse => hfalse.elim
  case declare =>
    rintro k done declared c books destination ⟨h, hk⟩ -
    exact (h.declare destination).imp (fun _ _ _ h => ⟨h, hk⟩) fun _ _ _ hfalse => hfalse.elim
  case duplicate =>
    rintro k done declared c books m ⟨⟨⟨left, s, hs⟩, -, -⟩, -⟩ hdone hadd
    have hlt := hs.lt_next (Nat.lt_of_le_of_lt (by simpa using hdone.length_le) hlen)
    obtain ⟨b', hsome, -⟩ := Books.add?_last hlt m
    rw [hs.nextTag, hsome] at hadd
    exact absurd hadd (Option.some_ne_none _)
  case transmit =>
    rintro k done declared c books books' m ⟨h, hk⟩ hdone hroomy hdeclared hadd
    have hlt : done.length < messages.length := by simpa using hdone.length_le
    obtain ⟨left, s, hs⟩ := h.inStep
    rw [hs.nextTag] at hadd ⊢
    refine (h.transmit (Nat.lt_of_le_of_lt hlt hlen) hdeclared hadd).imp
      (fun tag _ _ ⟨htag, h⟩ => ?_) fun fault c' _ hfull => ?_
    · rw [if_pos htag]
      exact ⟨h, by rw [hk, List.length_append, List.length_singleton]⟩
    · -- the limit is not met before the first wait
      obtain ⟨most, hmost, heq⟩ := Option.map_eq_some_iff.1 hfull
      have hle : before.transmits + _ ≤ most := hroom most hmost
      have hfirst : done.length < (settings.opening messages).length := by
        unfold Settings.opening
        split_ifs with hpacing
        · exact hlt
        · rw [List.length_take]
          have := hroomy hpacing
          omega
      omega
  case await =>
    rintro k done declared c books i ⟨h, hk⟩ hpacing hat
    have hi : i = 0 := by
      have hsince := hat.since
      by_contra hi
      have := Nat.mul_pos (Nat.pos_of_ne_zero hi) hsize
      omega
    subst hi
    have hfirst : done = settings.opening messages := by
      rw [hat.sent, Nat.zero_add, Nat.one_mul, Settings.opening, if_neg hpacing]
    have hne : done ≠ [] := by
      rw [hfirst, Settings.opening, if_neg hpacing]
      exact fun hnil => (List.take_eq_nil_iff.1 hnil).elim (Nat.ne_of_gt hsize) hsome
    rw [Settings.confirmWait_batch hpacing] at hshort
    refine (h.awaitConfirms hne hshort).imp (fun confirmed c _ ⟨hanswer, hstrands, hused⟩ => ?_)
      fun _ _ _ hfalse => hfalse.elim
    rw [hanswer, if_neg Bool.false_ne_true, ← hfirst]
    refine ⟨?_, hstrands, hused⟩
    rw [Settings.unanswered, if_neg hpacing]
  case lull =>
    rintro k declared c books ⟨h, hk⟩ hpaced -
    have hpacing : settings.pacing = .streaming := by
      by_contra hpacing
      exact hsome (List.eq_nil_of_length_eq_zero (hk.symm.trans (hpaced hpacing)))
    have hfirst : settings.opening messages = messages := if_pos hpacing
    rw [Settings.confirmWait_streaming hpacing] at hshort
    refine (h.lull hsome hshort).imp (fun c books hopen hdrained => ?_)
      fun c books ⟨hcount, hstrands, hused⟩ => ?_
    · exact absurd (hopen.symm.trans hdrained) Bool.false_ne_true
    · rw [hcount, hfirst]
      refine ⟨?_, hstrands, hused⟩
      rw [Settings.unanswered, if_pos hpacing]

/-- What is kept and answered does not change when the session is closed, nor later. -/
theorem Strands.shut {first : List Message} {b : Broker} (h : Strands P parcel before first b) (n : Nat) :
    Strands P parcel before first (b.shut n) := by
  refine ⟨(congrArg Ledger.deliveries (ledger_shut n)).trans h.deliveries, h.agree.trans ?_⟩
  obtain ⟨closed, ready, due, heq⟩ := shut_eq b n
  rw [heq]
  exact agree_of_eq rfl fun _ => rfl

theorem Strands.sleep {first : List Message} {b : Broker} (h : Strands P parcel before first b)
    (hquiet : Quiet P 0 b) (time : Span) : Strands P parcel before first (b.sleep time).state := by
  have hidle := interlude_sleep b time
  exact ⟨(congrArg Ledger.deliveries hidle.ledger).trans h.deliveries,
    h.agree.trans (agree_of_excerpt (excerpt_interlude hidle hquiet).symm)⟩

variable {p : Publisher} {messages : List Message} {j : Journaled Client}

/-- A round whose first wait is over before the delay is comes back with that, and leaves behind what
it sent before. -/
theorem conduct_strands (hsome : messages ≠ []) (hlen : messages.length < 2 ^ 64)
    (hbrisk : Brisk P (j.state.broker.delay.waitMillis + 1) 0 j.state.broker)
    (hshort : p.settings.confirmWait.waitMillis ≤ j.state.broker.delay.waitMillis)
    (hroom : ∀ most ∈ j.state.broker.limit,
      j.state.broker.transmits + (p.settings.opening messages).length ≤ most) (number : Nat) :
    let before := j.state.broker
    let first := p.settings.opening messages
    let r := p.conduct Client.link number messages j
    r.1 = .error (p.settings.unanswered first.length)
      ∧ Strands P p.settings.parcel before first r.2.state.broker
      ∧ Brisk P (before.delay.waitMillis + 1) 0 r.2.state.broker := by
  intro before first r
  have hends := Round.conduct_concludes_paced j number p.chunkSize_pos fun _ =>
    paced_strands hsome p.chunkSize_pos hlen hbrisk hshort hroom
  change Round.Concludes _ _ _ _ _ r.1 r.2.state at hends
  generalize r = out at hends ⊢
  obtain ⟨e | outcome, j'⟩ := out
  · rcases hends with ⟨fault, hanswer, -⟩ | ⟨_, c, _, -, ⟨hfailure, hstrands, s, hs⟩, -, hstate⟩
    · rw [openSession_eq hbrisk.connected] at hanswer
      exact absurd hanswer (by rintro ⟨⟩)
    · have hclosed : (Client.link.close c).state.broker = c.broker.shut c.session :=
        congrArg Reply.state hs.close
      dsimp only at hstate ⊢
      rw [hstate, hfailure, hclosed]
      exact ⟨rfl, hstrands.shut c.session, hs.shut⟩
  · obtain ⟨declared, c, books, ⟨k, -, h, -⟩, hdrained, -⟩ := hends
    obtain ⟨s, -, -, -, -, hopen, -⟩ := h.active hsome
    exact absurd (hopen.symm.trans hdrained) Bool.false_ne_true

/-- So does the call that begins with that round. -/
theorem publishAll_strands (hsome : messages ≠ []) (hlen : messages.length < 2 ^ 64)
    (hbrisk : Brisk P (j.state.broker.delay.waitMillis + 1) 0 j.state.broker)
    (hshort : p.settings.confirmWait.waitMillis ≤ j.state.broker.delay.waitMillis)
    (hroom : ∀ most ∈ j.state.broker.limit,
      j.state.broker.transmits + (p.settings.opening messages).length ≤ most) :
    let before := j.state.broker
    let first := p.settings.opening messages
    let r := p.publishAll Client.link messages j
    r.1 = some (.error (p.settings.unanswered first.length))
      ∧ Strands P p.settings.parcel before first r.2.state.broker
      ∧ Brisk P (before.delay.waitMillis + 1) 0 r.2.state.broker := by
  obtain ⟨hresult, hleft⟩ := conduct_strands hsome hlen hbrisk hshort hroom 1
  have hrun : p.publishAll Client.link messages j
      = (some (.error (p.settings.unanswered (p.settings.opening messages).length)),
        (p.conduct Client.link 1 messages j).2) :=
    Retry.run_of_fails hsome (Prod.ext hresult rfl)
  intro before first r
  change r = _ at hrun
  rw [hrun]
  exact ⟨rfl, hleft⟩

end Unheard

end Broker

end ConfirmedDelivery
