import ConfirmedDelivery.Proofs.Broker.Cooperation

/-!
# Where a round stops

How a round on a broker without delay ends can be told beforehand, from how many messages the broker
still takes and which of them is the first that is never answered (`stop`): a round that waits for its
batches fails in the first batch that meets either of the two, with the limit before the wait, and a
streaming round meets the limit first. What the failed round sent stays sent, and of that what the
script accepts is kept as far as a pass took it in (`conduct_stops`).
-/

namespace ConfirmedDelivery.Broker

/-- How a round ends: with a failure, if with any, when so many messages were sent and so many of those
were taken in by a pass. -/
structure Stop where
  failure : Option Failure
  sent : Nat
  taken : Nat

/-- The end of a round with `n` messages of which the broker still takes so many and no more (`room`),
and whose first message that is never answered has this position (`first`), counted from zero, in all
so many of them being `withheld`. -/
def stop (settings : Settings) (n : Nat) (room first : Option Nat) (withheld : Nat) : Stop :=
  let size := settings.chunkSize
  let reset := Failure.link (.connectionClosed "connection reset during transmit")
  if settings.pacing = .streaming then
    match room with
    | some k => ⟨some reset, k, 0⟩
    | none =>
      if withheld = 0 then ⟨none, n, n⟩
      else ⟨some (.confirmationTimeout withheld settings.timeout), n, n⟩
  else
    match room, first with
    | none, none => ⟨none, n, n⟩
    | some k, none => ⟨some reset, k, k / size * size⟩
    | none, some p => late size p
    | some k, some p => if k / size ≤ p / size then ⟨some reset, k, k / size * size⟩ else late size p
where
  /-- The batch with the message at this position is waited for in vain. -/
  late (size p : Nat) : Stop :=
    let batch := p / size + 1
    ⟨some (.batchConfirmTimeout batch settings.batchConfirmTimeout), min n (batch * size),
      min n (batch * size)⟩

/-- What a round comes back with that sends this: its failure, or how the script rules. -/
def Stop.result (stop : Stop) (rules : Script) (sent : List (Message × Delivery)) :
    Except Failure (Outcome Message) :=
  match stop.failure with
  | some e => .error e
  | none => .ok ⟨sent.length, sent.countP fun x => rules x.2 = .ack, refused rules sent⟩

/-- How many messages the broker still takes, if that is less than `n`. -/
def room (b : Broker) (n : Nat) : Option Nat := (b.limit.map (· - b.transmits)).filter (· < n)

/-- The position of the first message that is never answered. -/
def firstIgnored (rules : Script) (sent : List (Message × Delivery)) : Option Nat :=
  sent.findIdx? fun x => rules x.2 = .withhold

/-- The end of a round that sends this on the broker. -/
def stopOf (b : Broker) (settings : Settings) (sent : List (Message × Delivery)) : Stop :=
  stop settings sent.length (b.room sent.length) (firstIgnored b.script sent)
    (ignored b.script sent).length

section First

variable {rules : Script} {sent : List (Message × Delivery)}

theorem firstIgnored_eq_none : firstIgnored rules sent = none ↔ ignored rules sent = [] := by
  unfold firstIgnored ignored
  rw [List.findIdx?_eq_none_iff, List.filter_eq_nil_iff]
  simp only [Bool.not_eq_true]

theorem firstIgnored_take (x : Nat) : ignored rules (sent.take x) = []
    ↔ ∀ p ∈ firstIgnored rules sent, x ≤ p := by
  rw [← firstIgnored_eq_none, firstIgnored, List.findIdx?_take, Option.bind_eq_none_iff]
  simp [firstIgnored, Option.guard]

end First

/-- What is left behind by a round that has come to this end. -/
structure Ended (parcel : Message → Parcel) (before : Broker) (messages : List Message) (stop : Stop)
    (b : Broker) : Prop where
  ledger : b.ledger = before.ledger.open.after parcel (messages.take stop.sent)
  known : Known b
  kept : OfItself before → Gained before (accepted (((sends parcel (before.opened + 1) 1
    before.attempts messages).take stop.taken).map (ruledBy before.script))) b

/-- How far a round has come: what was taken in are whole batches, in which nothing was withheld, unless
the round is streaming. Then nothing is taken in before all is sent. -/
structure Halfway (settings : Settings) (rules : Script) (messages : List Message) (k : Nat)
    (done : List Message) (taken left : List (Message × Delivery)) : Prop where
  streaming : settings.pacing = .streaming → taken = [] ∨ done = messages
  waiting : settings.pacing ≠ .streaming → left.length = k ∧ ignored rules taken = []
    ∧ ∃ i, taken.length = min messages.length (i * settings.chunkSize)

section Ends

variable {settings : Settings} {before : Broker} {messages done : List Message}
  {declared : List String} {taken left : List (Message × Delivery)} {k : Nat} {b : Broker}
  {books : Books Message} {s : Session}

theorem take_sends (parcel : Message → Parcel) (n x : Nat) (tag : Tag) (tally : Tally)
    (ms : List Message) :
    (sends parcel n tag tally ms).take x = sends parcel n tag tally (ms.take x) := by
  conv_lhs => rw [← List.take_append_drop x ms, sends_append]
  rcases Nat.le_total x ms.length with hx | hx
  · rw [List.take_left' (by rw [length_sends, List.length_take_of_le hx])]
  · rw [List.take_of_length_le hx, List.drop_of_length_le hx, sends, List.append_nil,
      List.take_of_length_le (by rwa [length_sends])]

/-- What a round has sent is the beginning of what it is to send. -/
theorem Underway.beginning
    (h : Underway settings.parcel before done declared taken left b books s)
    (hdone : done <+: messages) :
    taken ++ left = (sends settings.parcel (before.opened + 1) 1 before.attempts messages).take
      done.length := by
  rw [take_sends, ← List.prefix_iff_eq_take.1 hdone]
  exact h.sent

theorem Underway.ended
    (h : Underway settings.parcel before done declared taken left b books s) {stop : Stop}
    (hdone : done <+: messages) (hsent : stop.sent = done.length) (htaken : stop.taken = taken.length) :
    Ended settings.parcel before messages stop b where
  ledger := by
    rw [hsent, ← List.prefix_iff_eq_take.1 hdone]
    exact h.ledger
  known := h.known
  kept hown := by
    have htake := congrArg (List.take taken.length) (h.beginning hdone)
    have hle := congrArg List.length h.sent
    rw [length_sends, List.length_append] at hle
    rw [List.take_left, List.take_take, Nat.min_eq_left (by omega)] at htake
    rw [htaken, ← htake]
    exact (h.kept hown).gained

end Ends

section Halfway

variable {settings : Settings} {rules : Script} {messages done : List Message} {k : Nat}
  {sent taken left : List (Message × Delivery)}

/-- The limit is met where a round has come to. -/
theorem Halfway.reset (h : Halfway settings rules messages k done taken left)
    (hsize : 0 < settings.chunkSize) (hlen : sent.length = messages.length)
    (hsent : taken ++ left = sent.take done.length) (hdone : done.length < messages.length)
    (hk : settings.pacing ≠ .streaming → k < settings.chunkSize) (withheld : Nat) :
    stop settings sent.length (some done.length) (firstIgnored rules sent) withheld
      = ⟨some (.link (.connectionClosed "connection reset during transmit")), done.length,
          taken.length⟩ := by
  unfold stop
  dsimp only
  split_ifs with hpacing
  · rcases h.streaming hpacing with rfl | rfl
    · rfl
    · omega
  · obtain ⟨hleft, hanswered, i, htaken⟩ := h.waiting hpacing
    have hsum := congrArg List.length hsent
    rw [List.length_append, List.length_take_of_le (by omega)] at hsum
    have hbatches : taken.length = i * settings.chunkSize := by omega
    have hbatch : done.length / settings.chunkSize = i := by
      rw [← hsum, hleft, hbatches, Nat.mul_comm, Nat.mul_add_div hsize,
        Nat.div_eq_of_lt (hk hpacing), Nat.add_zero]
    have hlater : ∀ p ∈ firstIgnored rules sent, i ≤ p / settings.chunkSize := by
      have htake := congrArg (List.take taken.length) hsent
      rw [List.take_left, List.take_take, Nat.min_eq_left (by omega)] at htake
      rw [htake, firstIgnored_take, hbatches] at hanswered
      exact fun p hp => (Nat.le_div_iff_mul_le hsize).2 (hanswered p hp)
    rw [hbatches, ← hbatch]
    rcases hfirst : firstIgnored rules sent with _ | p
    · rfl
    · exact if_pos (hbatch ▸ hlater p hfirst)

/-- A batch that is waited for in vain is that of the first message that is never answered, and the limit
is not met in it. -/
theorem Halfway.late {i : Nat} {room : Option Nat}
    (h : Halfway settings rules messages k done taken left) (hsize : 0 < settings.chunkSize)
    (hlen : sent.length = messages.length) (hsent : taken ++ left = sent.take done.length)
    (hpacing : settings.pacing ≠ .streaming) (hbatch : Round.AtBatch settings.chunkSize messages i k done)
    (hroom : ∀ k ∈ room, done.length ≤ k ∧ k < messages.length)
    (hignored : ignored rules (taken ++ left) ≠ []) (withheld : Nat) :
    stop settings sent.length room (firstIgnored rules sent) withheld
      = ⟨some (.batchConfirmTimeout (i + 1) settings.batchConfirmTimeout), done.length,
          done.length⟩ := by
  obtain ⟨hleft, hanswered, -⟩ := h.waiting hpacing
  have hdone := congrArg List.length hbatch.sent
  rw [List.length_take] at hdone
  have hsince := hbatch.since
  have hsum := congrArg List.length hsent
  rw [List.length_append, List.length_take_of_le (by omega)] at hsum
  have htake := congrArg (List.take taken.length) hsent
  rw [List.take_left, List.take_take, Nat.min_eq_left (by omega)] at htake
  rw [htake, firstIgnored_take] at hanswered
  rw [hsent, Ne, firstIgnored_take] at hignored
  push Not at hignored
  obtain ⟨p, hp, hlt⟩ := hignored
  have hge := hanswered p hp
  have hfirst : p / settings.chunkSize = i :=
    Nat.div_eq_of_lt_le (by omega) (by omega)
  have hlate : stop.late settings sent.length settings.chunkSize p
      = ⟨some (.batchConfirmTimeout (i + 1) settings.batchConfirmTimeout), done.length,
          done.length⟩ := by
    rw [stop.late, hfirst, hlen, Nat.min_comm, ← hdone]
  unfold stop
  rw [if_neg hpacing, hp]
  rcases room with _ | r
  · exact hlate
  · obtain ⟨hle, hlt⟩ := hroom r rfl
    have hbeyond : ¬ r / settings.chunkSize ≤ p / settings.chunkSize := by
      rw [hfirst, Nat.not_le]
      refine (Nat.le_div_iff_mul_le hsize).2 ?_
      change (i + 1) * settings.chunkSize ≤ r
      omega
    exact (if_neg hbeyond).trans hlate

theorem stop_through (settings : Settings) (n : Nat) : stop settings n none none 0 = ⟨none, n, n⟩ := by
  unfold stop
  by_cases hpacing : settings.pacing = .streaming
  · exact (if_pos hpacing).trans (if_pos rfl)
  · exact if_neg hpacing

theorem stop_undrained {withheld : Nat} (hpacing : settings.pacing = .streaming)
    (hwithheld : withheld ≠ 0) (n : Nat) (first : Option Nat) :
    stop settings n none first withheld
      = ⟨some (.confirmationTimeout withheld settings.timeout), n, n⟩ :=
  (if_pos hpacing).trans (if_neg hwithheld)

end Halfway

section Round

variable {settings : Settings} {messages : List Message} {c : Client}

theorem room_le {b : Broker} {n x k : Nat} (hroom : ∀ most ∈ b.limit, x ≤ most - b.transmits)
    (hk : k ∈ b.room n) : x ≤ k ∧ k < n := by
  obtain ⟨hk, hlt⟩ := Option.mem_filter_iff.1 hk
  obtain ⟨most, hmost, rfl⟩ := Option.map_eq_some_iff.1 hk
  exact ⟨hroom most hmost, of_decide_eq_true hlt⟩

theorem room_eq_none {b : Broker} {n : Nat} (hroom : ∀ most ∈ b.limit, n ≤ most - b.transmits) :
    b.room n = none :=
  Option.eq_none_iff_forall_not_mem.2 fun _ hk =>
    have hle := room_le hroom hk
    absurd hle.2 (Nat.not_lt.2 hle.1)

theorem Ended.close {parcel : Message → Parcel} {before : Broker} {stop : Stop}
    (h : Ended parcel before messages stop c.broker) :
    Ended parcel before messages stop (Client.link.close c).state.broker := by
  change Ended parcel before messages stop (c.broker.close c.session).state
  unfold Broker.close
  split
  · exact h
  · obtain ⟨closed, ready, due, heq⟩ := shut_eq c.broker c.session
    refine ⟨(ledger_shut c.session).trans h.ledger, h.known.shut c.session, fun hown => ?_⟩
    refine (h.kept hown).congr fun q => ?_
    change (c.broker.shut c.session).stored q = _
    rw [heq]
    rfl

/-- A round on a broker without delay is in step until it fails, and that it does where it is to stop. -/
theorem paced_stops (hsize : 0 < settings.chunkSize) (hlen : messages.length < 2 ^ 64)
    (htimeout : settings.timeout.nanos ≠ 0) (hbatch : settings.batchConfirmTimeout.nanos ≠ 0)
    (hconnected : c.broker.disconnected = false) (hprompt : c.broker.delay.nanos = 0)
    (hknown : Known c.broker) :
    let before := c.broker
    let sent := sends settings.parcel (before.opened + 1) 1 before.attempts messages
    let stop := before.stopOf settings sent
    Round.Paced Client.link settings messages (Client.link.openSession c).state
      (fun k done declared c books => ∃ taken left s,
        InStep settings.parcel before done declared c books taken left s
          ∧ Halfway settings before.script messages k done taken left)
      (fun e _ c _ => stop.failure = some e
        ∧ Ended settings.parcel before messages stop c.broker) := by
  intro before sent stop
  have hsent : sent.length = messages.length := length_sends ..
  constructor
  case enable =>
    refine (enable_inStep settings.parcel hconnected hknown).imp
      (fun _ _ _ ⟨s, h⟩ => ⟨[], [], s, h, fun _ => .inl rfl, fun _ => ⟨rfl, rfl, 0, ?_⟩⟩)
      fun _ _ _ hfalse => hfalse.elim
    rw [Nat.zero_mul, Nat.min_zero]
    rfl
  case declare =>
    rintro k done declared c books destination ⟨taken, left, s, h, hway⟩ -
    exact (h.declare destination).imp (fun _ _ _ h => ⟨taken, left, s, h, hway⟩)
      fun _ _ _ hfalse => hfalse.elim
  case duplicate =>
    rintro k done declared c books m ⟨taken, left, s, h, -⟩ hdone hadd
    have hlt := h.lt_next (Nat.lt_of_le_of_lt (by simpa using hdone.length_le) hlen)
    obtain ⟨b', hsome, -⟩ := Books.add?_last hlt m
    rw [h.nextTag, hsome] at hadd
    exact absurd hadd (Option.some_ne_none _)
  case transmit =>
    rintro k done declared c books books' m ⟨taken, left, s, h, hway⟩ hdone hk hdeclared hadd
    have hlt : done.length < messages.length := by simpa using hdone.length_le
    have hbegin := h.beginning (prefix_of_append hdone)
    rw [h.nextTag] at hadd ⊢
    refine (h.transmit (Nat.lt_of_le_of_lt hlt hlen) hdeclared hadd).imp
      (fun tag _ _ ⟨htag, x, s, h⟩ => ?_) fun fault c' _ ⟨hfault, hfull, hc'⟩ => ?_
    · rw [if_pos htag]
      refine ⟨taken, left ++ [x], s, h, fun hpacing => .inl ?_, fun hpacing => ?_⟩
      · refine (hway.streaming hpacing).resolve_right fun hall => ?_
        rw [hall] at hlt
        exact Nat.lt_irrefl _ hlt
      · obtain ⟨hleft, hanswered, hbatches⟩ := hway.waiting hpacing
        exact ⟨by rw [List.length_append, hleft, List.length_singleton], hanswered, hbatches⟩
    · have hroom : before.room sent.length = some done.length := by
        unfold room
        rw [hfull]
        exact Option.filter_some_pos (decide_eq_true (hsent ▸ hlt))
      have hstop : stop = _ := (congrArg (fun room => Broker.stop settings _ room _ _) hroom).trans
        (hway.reset hsize hsent hbegin hlt hk _)
      have hended : Ended settings.parcel before messages stop c.broker :=
        h.ended (prefix_of_append hdone) (by rw [hstop]) (by rw [hstop])
      rw [hfault, hc']
      exact ⟨by rw [hstop], hended.ledger, hended.known,
        fun hown => (hended.kept hown).congr fun _ => rfl⟩
  case await =>
    rintro k done declared c books i ⟨taken, left, s, h, hway⟩ hpacing hat
    have hdone : done <+: messages := hat.sent ▸ List.take_prefix ..
    have hbegin := h.beginning hdone
    refine (h.awaitConfirms hprompt hbatch).imp (fun inTime _ _ ⟨hintime, s, h'⟩ => ?_)
      fun _ _ _ hfalse => hfalse.elim
    split_ifs with htrue
    · rw [htrue, eq_comm, decide_eq_true_eq] at hintime
      have hlength := congrArg List.length hbegin
      have htaken := congrArg List.length hat.sent
      rw [List.length_take_of_le (hsent ▸ hdone.length_le)] at hlength
      rw [List.length_take, Nat.min_comm] at htaken
      exact ⟨taken ++ left, [], s, h', fun hstreaming => absurd hstreaming hpacing,
        fun _ => ⟨rfl, hintime, i + 1, hlength.trans htaken⟩⟩
    · have hignored : ignored before.script (taken ++ left) ≠ [] := fun hnone => by
        rw [hnone] at hintime
        exact htrue hintime
      have hstop : stop = _ := hway.late hsize hsent hbegin hpacing hat
        (fun k hk => hsent ▸ room_le h.room hk) hignored _
      have hlength := congrArg List.length hbegin
      rw [List.length_take_of_le (hsent ▸ hdone.length_le)] at hlength
      exact ⟨by rw [hstop], h'.ended hdone (by rw [hstop]) (by rw [hstop, hlength])⟩
  case lull =>
    rintro k declared c books ⟨taken, left, s, h, hway⟩ hk hopen
    have hbegin := h.beginning (List.prefix_refl _)
    rw [List.take_of_length_le hsent.le] at hbegin
    have hpacing : settings.pacing = .streaming := by
      by_contra hpacing
      obtain ⟨hleft, hanswered, -⟩ := hway.waiting hpacing
      obtain rfl : left = [] := List.length_eq_zero_iff.1 (hleft.trans (hk hpacing))
      have hnone := h.squares.unanswered
      rw [hanswered] at hnone
      rw [(Books.drained_iff h.squares.current).2 hnone] at hopen
      exact absurd hopen Bool.noConfusion
    refine (h.lull hprompt htimeout).imp (fun _ _ ⟨s, h⟩ _ => ⟨taken ++ left, [], s, h, fun _ => .inr rfl,
      fun hpaced => absurd hpacing hpaced⟩) fun _ books ⟨hopen, s, h⟩ => ?_
    have hwithheld : books.inFlight.size = (ignored before.script sent).length := by
      have hunanswered := congrArg List.length h.squares.unanswered
      rwa [List.length_map, List.append_nil, hbegin] at hunanswered
    have hsome : (ignored before.script sent).length ≠ 0 := fun hzero => by
      have hnone := h.squares.unanswered
      rw [hbegin, List.length_eq_zero_iff.1 hzero] at hnone
      rw [(Books.drained_iff h.squares.current).2 hnone] at hopen
      exact absurd hopen Bool.noConfusion
    have hroom : before.room sent.length = none := room_eq_none (hsent ▸ h.room)
    have hstop : stop = _ := (congrArg (fun room => Broker.stop settings _ room _ _) hroom).trans
      (stop_undrained hpacing hsome _ _)
    rw [hwithheld]
    exact ⟨by rw [hstop],
      h.ended (List.prefix_refl _) (by rw [hstop]; exact hsent) (by rw [hstop, hbegin])⟩

/-- A round on a broker without delay ends as is foretold. -/
theorem conduct_ends (p : Publisher) (htimeout : p.settings.timeout.nanos ≠ 0)
    (hbatch : p.settings.batchConfirmTimeout.nanos ≠ 0) (hlen : messages.length < 2 ^ 64)
    {j : Journaled Client} (hconnected : j.state.broker.disconnected = false)
    (hprompt : j.state.broker.delay.nanos = 0) (hknown : Known j.state.broker) (number : Nat) :
    let before := j.state.broker
    let sent := sends p.settings.parcel (before.opened + 1) 1 before.attempts messages
    let stop := before.stopOf p.settings sent
    (p.conduct Client.link number messages j).1 = stop.result before.script sent
      ∧ Ended p.settings.parcel before messages stop
        (p.conduct Client.link number messages j).2.state.broker := by
  intro before sent stop
  have hends := Round.conduct_concludes_paced j number p.chunkSize_pos fun _ =>
    paced_stops p.chunkSize_pos hlen htimeout hbatch hconnected hprompt hknown
  change Round.Concludes _ _ _ _ _ (p.conduct Client.link number messages j).1
    (p.conduct Client.link number messages j).2.state at hends
  generalize p.conduct Client.link number messages j = out at hends ⊢
  obtain ⟨e | outcome, j'⟩ := out
  · rcases hends with ⟨fault, hanswer, -⟩ | ⟨_, c, _, -, ⟨hfailure, hended⟩, -, hstate⟩
    · rw [openSession_eq hconnected] at hanswer
      exact absurd hanswer (by rintro ⟨⟩)
    · dsimp only at hstate ⊢
      rw [hstate, Stop.result, hfailure]
      exact ⟨rfl, hended.close⟩
  · obtain ⟨declared, c, books, ⟨k, -, taken, left, s, h, -⟩, hdrained, -, hstate, rfl⟩ := hends
    have hsent : sent.length = messages.length := length_sends ..
    have hnone := (Books.drained_iff h.squares.current).1 hdrained
    rw [h.squares.unanswered, List.map_eq_nil_iff, List.append_eq_nil_iff] at hnone
    obtain ⟨hanswered, rfl⟩ := hnone
    have hbegin := h.beginning (List.prefix_refl _)
    rw [List.append_nil, List.take_of_length_le hsent.le] at hbegin
    have hstop : stop = ⟨none, sent.length, sent.length⟩ := by
      have hroom : before.room sent.length = none := room_eq_none (hsent ▸ h.room)
      have hall : ignored before.script sent = [] := hbegin ▸ hanswered
      change before.stopOf p.settings sent = _
      rw [stopOf, hroom, firstIgnored_eq_none.2 hall, hall]
      exact stop_through p.settings sent.length
    have hended : Ended p.settings.parcel before messages stop c.broker :=
      h.ended (List.prefix_refl _) (by rw [hstop]; exact hsent) (by rw [hstop, hbegin])
    have hevents : (Client.link.close c).events = [] :=
      congrArg (Client.confirmsOf c.session) (events_close c.broker c.session)
    dsimp only at hstate ⊢
    rw [hstate]
    refine ⟨?_, hended.close⟩
    rw [Stop.result, hstop, hevents, Books.handleAll_nil, h.squares.acked, h.squares.rejected, hbegin,
      hsent]

/-- On a broker without delay that takes new sessions, whatever happened to it before, a round fails
exactly where it is to stop. What was sent until then is delivered, on the next session and with tags
from one, and of that exactly what the script accepts and a pass took in is kept. -/
theorem conduct_stops (p : Publisher) (htimeout : p.settings.timeout.nanos ≠ 0)
    (hbatch : p.settings.batchConfirmTimeout.nanos ≠ 0) (messages : List Message)
    (hlen : messages.length < 2 ^ 64) (j : Journaled Client)
    (hreachable : Reachable Paused j.state.broker) (hconnected : j.state.broker.disconnected = false)
    (hprompt : j.state.broker.delay.nanos = 0) (number : Nat) :
    let before := j.state.broker
    let sent := sends p.settings.parcel (before.opened + 1) 1 before.attempts messages
    let stop := before.stopOf p.settings sent
    let after := (p.conduct Client.link number messages j).2.state.broker
    (p.conduct Client.link number messages j).1 = stop.result before.script sent
      ∧ after.deliveries = before.deliveries ++ (sent.take stop.sent).map Prod.snd
      ∧ Gained before (accepted ((sent.take stop.taken).map (ruledBy before.script))) after := by
  intro before sent stop after
  obtain ⟨hresult, hended⟩ :=
    conduct_ends p htimeout hbatch hlen hconnected hprompt (known_of_reachable hreachable) number
  have hown := ofItself_of_reachable (fun _ _ hpaused => hpaused.interlude) hreachable
  refine ⟨hresult, ?_, hended.kept hown⟩
  rw [take_sends]
  exact congrArg Ledger.deliveries hended.ledger

/-- A broker that takes five messages more; it refuses the second one of a session and says nothing of the
fourth. -/
def patchy : Broker :=
  { start with
    script := fun d => if d.tag = 2 then .nack else if d.tag = 4 then .withhold else .ack
    limit := some 5 }

/-- A publisher whose batches hold two messages. -/
def pairwise : Publisher := ⟨{ Settings.standard with batchSize := 2 }, Publisher.check_standard⟩

/-- A publisher that waits only when all is sent. -/
def streamer : Publisher := ⟨{ Settings.standard with pacing := .streaming }, Publisher.check_standard⟩

theorem conduct_stops_patchy :
    let messages : List Message := (List.range 6).map fun i => ⟨i, "Hello", .empty, .empty⟩
    let j : Journaled Client := .start ⟨patchy, 0⟩
    let paired := pairwise.conduct Client.link 1 messages j
    let streamed := streamer.conduct Client.link 1 messages j
    paired.1 = .error (.batchConfirmTimeout 2 pairwise.settings.batchConfirmTimeout)
      ∧ paired.2.state.broker.deliveries.map Delivery.tag = [1, 2, 3, 4]
      ∧ (∃ added, Gained patchy added paired.2.state.broker ∧ added.map Delivery.tag = [1, 3])
      ∧ streamed.1 = .error (.link (.connectionClosed "connection reset during transmit"))
      ∧ streamed.2.state.broker.deliveries.map Delivery.tag = [1, 2, 3, 4, 5]
      ∧ Gained patchy [] streamed.2.state.broker := by
  intro messages j
  have hreachable : Reachable Paused patchy :=
    .configured patchy.script .individual .zero (some 5) false .start
  let sent := sends Settings.standard.parcel 1 1 [] messages
  have hfirst : firstIgnored patchy.script sent = some 3 := by decide +kernel
  have hpair : patchy.stopOf pairwise.settings sent
      = ⟨some (.batchConfirmTimeout 2 pairwise.settings.batchConfirmTimeout), 4, 4⟩ := by
    rw [stopOf, hfirst]
    rfl
  have hstream : patchy.stopOf streamer.settings sent
      = ⟨some (.link (.connectionClosed "connection reset during transmit")), 5, 0⟩ := by
    rw [stopOf, hfirst]
    rfl
  have hpaired := conduct_stops pairwise (by decide +kernel) (by decide +kernel) messages (by decide) j
    hreachable rfl rfl 1
  have hstreamed := conduct_stops streamer (by decide +kernel) (by decide +kernel) messages (by decide) j
    hreachable rfl rfl 1
  generalize pairwise.conduct Client.link 1 messages j = paired at hpaired ⊢
  generalize streamer.conduct Client.link 1 messages j = streamed at hstreamed ⊢
  obtain ⟨hlate, hpairs, hkept⟩ : paired.1 = (patchy.stopOf pairwise.settings sent).result _ _
    ∧ _ = _ ++ (sent.take (patchy.stopOf pairwise.settings sent).sent).map _
    ∧ Gained _ (accepted ((sent.take (patchy.stopOf pairwise.settings sent).taken).map _)) _ := hpaired
  obtain ⟨hreset, hstreams, hnone⟩ : streamed.1 = (patchy.stopOf streamer.settings sent).result _ _
    ∧ _ = _ ++ (sent.take (patchy.stopOf streamer.settings sent).sent).map _
    ∧ Gained _ (accepted ((sent.take (patchy.stopOf streamer.settings sent).taken).map _)) _ := hstreamed
  rw [hpair] at hlate hpairs hkept
  rw [hstream] at hreset hstreams hnone
  refine ⟨hlate, ?_, ⟨_, hkept, by decide +kernel⟩, hreset, ?_, hnone⟩
  · rw [hpairs]
    decide +kernel
  · rw [hstreams]
    decide +kernel

end Round

end ConfirmedDelivery.Broker
