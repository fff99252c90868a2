import ConfirmedDelivery.Proofs.Broker.Evenly
import ConfirmedDelivery.Proofs.Broker.Stranded

/-!
# What the delay matters to a call

How long sessions wait before they report matters to a call only in so far as it is longer or shorter
than the call waits for its confirms (`callAfter_delay`). Shorter, and the call ends as it would have
done without delay; longer, and it fails with its first wait. Sessions that were opened before and had
not reported everything when the call began are no exception as long as all have the same delay; if
they have another, when they report depends on the clock.
-/

namespace ConfirmedDelivery.Broker

/-- Whether a session has nothing to report, or is not opened yet. -/
def still (b : Broker) (n : Nat) : Bool :=
  (b.session? n).all fun s => s.contents.all fun x => !x.settles

section Still

variable {b : Broker} {n wait : Nat} {s : Session}

theorem spent_of_still (h : b.still n = true) (hs : b.session? n = some s) : s.Spent := fun x hx => by
  unfold still at h
  rw [hs] at h
  simpa using List.all_eq_true.1 h x hx

theorem still_ahead (h : b.opened < n) : b.still n = true := by
  rcases hs : b.session? n with _ | s
  · unfold still
    rw [hs]
    rfl
  · exact absurd (lt_of_session? hs).2 (Nat.not_le.2 h)

/-- A session that is closed has nothing to report. -/
theorem still_of_closed (h : Reachable Paused b) (hclosed : ∀ s ∈ b.sessions, s.closed = true) :
    b.still = fun _ => true := by
  have htidy := tidy_of_reachable (fun _ _ hpaused => hpaused.interlude) h
  funext n
  rcases hs : b.session? n with _ | s
  · unfold still
    rw [hs]
    rfl
  · obtain ⟨hwithheld, hempty⟩ := htidy n s hs
    have hcontents : s.contents = s.pending.values := by
      unfold Session.contents
      rw [hempty (hclosed s (mem_sessions hs)), List.append_nil]
    unfold still
    rw [hs]
    refine List.all_eq_true.2 fun x hx => ?_
    rw [hcontents] at hx
    rw [hwithheld x hx]
    rfl

/-- A broker that takes new sessions is brisk with any delay that is shorter than the wait. -/
theorem brisk_of_reachable (h : Reachable Paused b) (hconnected : b.disconnected = false)
    {delay : Span} (hbrief : delay.waitMillis < wait) :
    Brisk b.still wait 0 { b with delay } := by
  have hquiet : Quiet b.still 0 b :=
    ⟨ofItself_of_reachable (fun _ _ hpaused => hpaused.interlude) h,
      housed_of_reachable (fun _ _ hpaused => hpaused.interlude) h, fun _ => spent_of_still⟩
  have hknown : Known b := known_of_reachable h
  exact ⟨hquiet.congr rfl rfl fun _ => id, hknown, hconnected, hbrief, fun _ => still_ahead⟩

theorem destinations_of_excerpt {P : Nat → Bool} {b' : Broker} {m : Nat}
    (h : b.excerpt P n = b'.excerpt P m) : b.destinations = b'.destinations := by
  have hkeys : (keptBy P b.queues).keys = (keptBy P b'.queues).keys :=
    congrArg (fun e : Excerpt => e.queues.keys) h
  unfold keptBy at hkeys
  rwa [Dict.keys_mapValues, Dict.keys_mapValues] at hkeys

end Still

/-- A call on the broker as it is, but for its delay. -/
def callAfter (delay : Span) (p : Publisher) (messages : List Message) (j : Journaled Client) :
    Option (Except Failure Report) × Journaled Client :=
  p.publishAll Client.link messages
    { j with state := ⟨{ j.state.broker with delay }, j.state.session⟩ }

/-- A call on the broker as it is, but that neither it nor any session of it has a delay. -/
def callAtOnce (p : Publisher) (messages : List Message) (j : Journaled Client) :
    Option (Except Failure Report) × Journaled Client :=
  p.publishAll Client.link messages { j with state := ⟨j.state.broker.undelayed, j.state.session⟩ }

section Call

variable {p : Publisher} {j : Journaled Client} {delay delay' : Span}

/-- Delays that are over before the call stops waiting make no difference to it. -/
theorem callAfter_outlasts (messages : List Message) {P : Nat → Bool}
    (h : Brisk P p.settings.confirmWait.waitMillis 0 { j.state.broker with delay })
    (h' : Brisk P p.settings.confirmWait.waitMillis 0 { j.state.broker with delay := delay' }) :
    let r := callAfter delay p messages j
    let r' := callAfter delay' p messages j
    r.1 = r'.1 ∧ r.2.state.broker.excerpt P 0 = r'.2.state.broker.excerpt P 0 := by
  have hlink : Client.link.AlikeIn (matching P p.settings.confirmWait.waitMillis) p.settings
      Client.link := by
    refine matching_alike (fun hpacing => ?_) fun hpacing => ?_
    · rw [Settings.confirmWait_batch hpacing]
    · rw [Settings.confirmWait_streaming hpacing]
  let starting (delay : Span) : Journaled Client :=
    { j with state := ⟨{ j.state.broker with delay }, j.state.session⟩ }
  have halike : (matching P p.settings.confirmWait.waitMillis).between (starting delay).state
      (starting delay').state := ⟨h, h', rfl⟩
  obtain ⟨hresult, -, -, hexcerpt⟩ := p.publishAll_alikeIn hlink halike messages
  exact ⟨hresult, hexcerpt⟩

/-- Nor does it make one that the sessions opened before have had the same delay. -/
theorem callAfter_level (messages : List Message)
    (h : Even p.settings.confirmWait.waitMillis { j.state.broker with delay }) :
    let r := callAfter delay p messages j
    let r' := callAtOnce p messages j
    r.1 = r'.1
      ∧ r.2.state.broker.deliveries = r'.2.state.broker.deliveries
      ∧ r.2.state.broker.confirms = r'.2.state.broker.confirms
      ∧ r.2.state.broker.queues = r'.2.state.broker.queues := by
  have hlink : Client.link.AlikeIn (levelling p.settings.confirmWait.waitMillis) p.settings
      Client.link := by
    refine levelling_alike (fun hpacing => ?_) fun hpacing => ?_
    · rw [Settings.confirmWait_batch hpacing]
    · rw [Settings.confirmWait_streaming hpacing]
  let starting (b : Broker) : Journaled Client := { j with state := ⟨b, j.state.session⟩ }
  have halike : (levelling p.settings.confirmWait.waitMillis).between
      (starting { j.state.broker with delay }).state (starting j.state.broker.undelayed).state :=
    ⟨h, h.undelayed, (timeless_undelayed _).symm⟩
  obtain ⟨hresult, -, -, htimeless⟩ := p.publishAll_alikeIn hlink halike messages
  exact ⟨hresult, (congrArg deliveries htimeless :), (congrArg confirms htimeless :),
    (congrArg queues htimeless :)⟩

end Call

/-- A call on a broker that takes new sessions, whatever happened to it before. If it waits longer for
its confirms than the delay is, it comes back with the same result and leaves the same deliveries,
confirms and queues as without any delay, if all sessions that still answer have this one. If some have
another, the same goes for the result, the deliveries and the destinations, and for the confirms and
messages kept of sessions that had nothing to report when the call began. If it waits less, and may send
all that it sends before its first wait, it fails in the first round with that wait, and nothing of what
it sent is ever confirmed or kept. Sessions that it opens had nothing to report before, nor had those
that were closed. -/
theorem callAfter_delay (p : Publisher) (messages : List Message) (hsome : messages ≠ [])
    (hlen : messages.length < 2 ^ 64) (delay : Span) (j : Journaled Client)
    (hreachable : Reachable Paused j.state.broker)
    (hconnected : j.state.broker.disconnected = false) :
    let before := j.state.broker
    let first := p.settings.opening messages
    let level := callAtOnce p messages j
    let prompt := callAfter .zero p messages j
    let delayed := callAfter delay p messages j
    let after := delayed.2.state.broker
    (delay.waitMillis < p.settings.confirmWait.waitMillis →
        ((∀ s ∈ before.sessions, s.closed = false → s.confirming = true → s.delay = delay) →
          delayed.1 = level.1
            ∧ after.deliveries = level.2.state.broker.deliveries
            ∧ after.confirms = level.2.state.broker.confirms
            ∧ after.queues = level.2.state.broker.queues)
          ∧ delayed.1 = prompt.1
          ∧ after.deliveries = prompt.2.state.broker.deliveries
          ∧ after.destinations = prompt.2.state.broker.destinations
          ∧ Agree before.still after prompt.2.state.broker)
      ∧ (p.settings.confirmWait.waitMillis < delay.waitMillis →
        (∀ most ∈ before.limit, before.transmits + first.length ≤ most) →
        delayed.1 = some (.error (p.settings.unanswered first.length))
          ∧ Strands before.still p.settings.parcel before first after
          ∧ ∀ time, Strands before.still p.settings.parcel before first (after.sleep time).state)
      ∧ (∀ n, before.opened < n → before.still n = true)
      ∧ ((∀ s ∈ before.sessions, s.closed = true) → before.still = fun _ => true) := by
  intro before first level prompt delayed after
  refine ⟨fun hbrief => ⟨fun hsame => ?_, ?_⟩, fun hlate hroom => ?_, fun _ => still_ahead,
    still_of_closed hreachable⟩
  · have heven : Even p.settings.confirmWait.waitMillis { before with delay } :=
      even_of_reachable (.configured _ _ delay _ _ hreachable) hconnected hbrief hsame
    exact callAfter_level messages heven
  · have hdelayed := brisk_of_reachable hreachable hconnected hbrief
    have hprompt := brisk_of_reachable hreachable hconnected
      (waitMillis_zero.trans_lt (Nat.zero_lt_of_lt hbrief))
    obtain ⟨hresult, hexcerpt⟩ := callAfter_outlasts messages hdelayed hprompt
    exact ⟨hresult, congrArg (fun e : Excerpt => e.ledger.deliveries) hexcerpt,
      destinations_of_excerpt hexcerpt, agree_of_excerpt hexcerpt⟩
  · have hbrisk := brisk_of_reachable hreachable hconnected (Nat.lt_succ_self delay.waitMillis)
    obtain ⟨hresult, hstrands, hafter⟩ := publishAll_strands
      (j := { j with state := ⟨{ before with delay }, j.state.session⟩ }) hsome hlen hbrisk hlate.le hroom
    have hleft {b : Broker} (h : Strands before.still p.settings.parcel { before with delay } first b) :
        Strands before.still p.settings.parcel before first b :=
      ⟨h.deliveries, h.agree.confirms, h.agree.stored⟩
    exact ⟨hresult, hleft hstrands, fun time => hleft (hstrands.sleep hafter.toQuiet time)⟩

/-- A publisher that was told nothing but when to wait. -/
def pacedBy (pacing : Pacing) : Publisher := ⟨{ Settings.standard with pacing }, Publisher.check_standard⟩

/-- Two messages. -/
def greetings : List Message := [⟨1, "Hello", .empty, .empty⟩, ⟨2, "GoodBye", .empty, .empty⟩]

/-- What comes of sending them on a broker with this delay, to which nothing has happened. -/
def greeted (delay : Span) (pacing : Pacing) : Option (Except Failure Report) × Journaled Client :=
  callAfter delay (pacedBy pacing) greetings (.start ⟨start, 0⟩)

/-- A broker with a session on which a message was sent that is to be answered after 20 ms. -/
def expectant : Broker :=
  let hello : Message := ⟨3, "Hello", .empty, .empty⟩
  let b := (openSession { start with delay := .ofMillis 20 }).state
  let b := ((b.enableConfirms 1).state.declare 1 "hello").state
  (b.transmit 1 "hello" (hello.properties "text/plain" true) hello.body).state

theorem callAfter_delay_greetings :
    expectant.still 1 = false
      ∧ (callAfter (.ofMillis 20) (pacedBy .batched) greetings (.start ⟨expectant, 0⟩)).1
        = (callAtOnce (pacedBy .batched) greetings (.start ⟨expectant, 0⟩)).1
      ∧ (callAfter (.ofMillis 20) (pacedBy .batched) greetings
          (.start ⟨expectant, 0⟩)).2.state.broker.confirms
        = (callAtOnce (pacedBy .batched) greetings (.start ⟨expectant, 0⟩)).2.state.broker.confirms
      ∧ (greeted (.ofMillis 20) .batched).1 = (greeted .zero .batched).1
      ∧ Agree (fun _ => true) (greeted (.ofMillis 20) .batched).2.state.broker
        (greeted .zero .batched).2.state.broker
      ∧ (greeted (.ofMillis 60000) .perMessage).1
        = some (.error (.batchConfirmTimeout 1 (.ofMillis 50000)))
      ∧ (greeted (.ofMillis 60000) .perMessage).2.state.broker.deliveries.length = 1
      ∧ (greeted (.ofMillis 70000) .streaming).1
        = some (.error (.confirmationTimeout 2 (.ofMillis 60000)))
      ∧ ∀ time, Agree (fun _ => true) start
        ((greeted (.ofMillis 70000) .streaming).2.state.broker.sleep time).state := by
  have hexpectant : Reachable Paused expectant := .transmit 1 "hello" _ _ <| .declare 1 "hello" <|
    .enableConfirms 1 <| .openSession <| .configured _ _ (.ofMillis 20) _ _ .start
  have hlevel := (callAfter_delay (pacedBy .batched) greetings (List.cons_ne_nil _ _) (by decide)
    (.ofMillis 20) (.start ⟨expectant, 0⟩) hexpectant rfl).1 (by decide +kernel)
  obtain ⟨hsame, -, hconfirms, -⟩ := hlevel.1 (by decide +kernel)
  have hdelayed (delay : Span) (pacing : Pacing) := callAfter_delay (pacedBy pacing) greetings
    (List.cons_ne_nil _ _) (by decide) delay (.start ⟨start, 0⟩) .start rfl
  have hbatch : (pacedBy .perMessage).settings.batchConfirmTimeout = .ofMillis 50000 := by
    decide +kernel
  have htimeout : (pacedBy .streaming).settings.timeout = .ofMillis 60000 := by decide +kernel
  have hstill : start.still = fun _ => true :=
    (hdelayed .zero .batched).2.2.2 fun s hs => absurd hs List.not_mem_nil
  obtain ⟨-, hresult, -, -, hagree⟩ := (hdelayed (.ofMillis 20) .batched).1 (by decide +kernel)
  obtain ⟨hsingly, hone, -⟩ :=
    (hdelayed (.ofMillis 60000) .perMessage).2.1 (by decide +kernel) fun _ hmost => nomatch hmost
  obtain ⟨hstreamed, -, hlater⟩ :=
    (hdelayed (.ofMillis 70000) .streaming).2.1 (by decide +kernel) fun _ hmost => nomatch hmost
  unfold greeted
  refine ⟨by decide +kernel, hsame, hconfirms, hresult, ?_, hsingly.trans ?_, ?_, hstreamed.trans ?_,
    fun time => ?_⟩
  · rw [← hstill]
    exact hagree
  · rw [Settings.unanswered, if_neg (by decide), hbatch]
  · rw [hone.deliveries, List.length_append, List.length_map, length_sends]
    decide
  · rw [Settings.unanswered, if_pos (by decide), htimeout]
    rfl
  · rw [← hstill]
    exact (hlater time).agree

end ConfirmedDelivery.Broker
