import ConfirmedDelivery.Proofs.Broker.Stopping

/-!
# A call that can be told beforehand

A broker that takes new sessions and any number of messages, answers every one of them and does so
without delay lets no round stop before its end (`conduct_sends`). On such a broker, whatever happened
to it before, the rounds of a call send one turn after another, and with that the report or the failure
of the call is known (`publishAll_turns`): neither the pacing, the size of batches nor the way to report
makes a difference.
-/

namespace ConfirmedDelivery.Broker

/-- A broker with this ledger takes new sessions and any number of messages, and answers every one
without delay. -/
structure Obliging (l : Ledger) : Prop where
  connected : l.disconnected = false
  unlimited : l.limit = none
  prompt : l.delay.nanos = 0
  answers : ∀ d, l.script d ≠ .withhold

theorem Obliging.stopOf {b : Broker} (h : Obliging b.ledger) (settings : Settings)
    (sent : List (Message × Delivery)) :
    b.stopOf settings sent = ⟨none, sent.length, sent.length⟩ := by
  have hroom : b.room sent.length = none := room_eq_none fun most hmost => by
    rw [show b.limit = none from h.unlimited] at hmost
    cases hmost
  have hall : ignored b.script sent = [] := ignored_of_answers h.answers sent
  rw [Broker.stopOf, hroom, firstIgnored_eq_none.2 hall, hall]
  exact stop_through settings sent.length

/-- A round on an obliging broker delivers the messages in order on the next session, with tags from
one, and comes to its end with what the script refuses of them. -/
theorem conduct_sends (p : Publisher) (htimeout : p.settings.timeout.nanos ≠ 0)
    (hbatch : p.settings.batchConfirmTimeout.nanos ≠ 0) {pending : List Message}
    (hlen : pending.length < 2 ^ 64) {j : Journaled Client}
    (hobliging : Obliging j.state.broker.ledger) (hknown : Known j.state.broker) (number : Nat) :
    let l := j.state.broker.ledger.open
    let sent := sends p.settings.parcel l.opened 1 l.attempts pending
    ∃ j', p.conduct Client.link number pending j
        = (.ok ⟨pending.length, sent.countP fun x => l.script x.2 = .ack, refused l.script sent⟩, j')
      ∧ j'.state.broker.ledger = l.after p.settings.parcel pending ∧ Known j'.state.broker := by
  intro l sent
  obtain ⟨hresult, hended⟩ := conduct_ends p htimeout hbatch hlen hobliging.connected
    hobliging.prompt hknown number
  have hsent : sent.length = pending.length := length_sends ..
  rw [hobliging.stopOf] at hresult hended
  have hledger : (p.conduct Client.link number pending j).2.state.broker.ledger
      = l.after p.settings.parcel (pending.take sent.length) := hended.ledger
  rw [List.take_of_length_le hsent.ge] at hledger
  refine ⟨_, Prod.ext (hresult.trans ?_) rfl, hledger, hended.known⟩
  rw [← hsent]
  rfl

/-- The ledger after `k` rounds. -/
def ledgerAfter (b : Broker) (parcel : Message → Parcel) (messages : List Message) (k : Nat) :
    Ledger :=
  { b.ledger with
    deliveries := b.deliveries ++ b.delivered parcel messages k
    attempts := (b.turn parcel messages k).tally
    opened := b.opened + k }

section Turns

variable {b : Broker} {parcel : Message → Parcel} {messages : List Message}

theorem ledgerAfter_zero : b.ledgerAfter parcel messages 0 = b.ledger :=
  congrArg (fun ds => ({ b.ledger with deliveries := ds } : Ledger)) (List.append_nil b.deliveries)

theorem ledgerAfter_succ (k : Nat) : b.ledgerAfter parcel messages (k + 1)
    = (b.ledgerAfter parcel messages k).open.after parcel (b.turn parcel messages k).messages := by
  unfold ledgerAfter
  rw [delivered_succ, ← List.append_assoc]
  rfl

theorem Obliging.ledgerAfter (h : Obliging b.ledger) (k : Nat) :
    Obliging (b.ledgerAfter parcel messages k) := ⟨h.connected, h.unlimited, h.prompt, h.answers⟩

end Turns

section Call

variable (p : Publisher)

/-- The rounds of a call on an obliging broker follow the turns. -/
theorem follows_turns (htimeout : p.settings.timeout.nanos ≠ 0)
    (hbatch : p.settings.batchConfirmTimeout.nanos ≠ 0) {before : Broker}
    (hobliging : Obliging before.ledger) {messages : List Message}
    (hlen : messages.length < 2 ^ 64) :
    Retry.Follows (p.conduct Client.link)
      (fun i => (before.turn p.settings.parcel messages i).messages)
      (fun i c => c.broker.ledger = before.ledgerAfter p.settings.parcel messages i
        ∧ Known c.broker) := by
  rintro i j - ⟨hledger, hknown⟩
  let turn := before.turn p.settings.parcel messages i
  have hlen' : turn.messages.length < 2 ^ 64 :=
    Nat.lt_of_le_of_lt (length_turn_le before p.settings.parcel messages i) hlen
  have hobliging' : Obliging j.state.broker.ledger := by
    rw [hledger]
    exact hobliging.ledgerAfter i
  obtain ⟨j', hconduct, hledger', hknown'⟩ :=
    conduct_sends p htimeout hbatch hlen' hobliging' hknown (i + 1)
  rw [hledger] at hconduct hledger'
  refine ⟨_, j', hconduct, ⟨?_, hknown'⟩, rfl, rfl, ?_⟩
  · rw [hledger', ledgerAfter_succ]
  · have hcount := countP_refused hobliging.answers
      (turn.sends p.settings.parcel (before.opened + i + 1))
    exact hcount.trans (length_sends _ _ turn.messages _ _)

/-- On an obliging broker, whatever happened to it before, a call sends one turn after another,
each on the next session and with tags from one. If with the `m`-th turn nothing is refused any
more, and so many rounds may be made, it reports `m` rounds in which every message was accepted;
and if messages are refused in the last round that may be made, it fails and tells how many. -/
theorem publishAll_turns (messages : List Message) (hlen : messages.length < 2 ^ 64)
    (j : Journaled Client) (hreachable : Reachable Paused j.state.broker)
    (hobliging : Obliging j.state.broker.ledger) (hdeadline : p.settings.retry.deadlineSecs = none)
    (htimeout : p.settings.timeout.nanos ≠ 0)
    (hbatch : p.settings.batchConfirmTimeout.nanos ≠ 0) :
    let before := j.state.broker
    let result := (p.publishAll Client.link messages j).1
    let after := (p.publishAll Client.link messages j).2.state.broker
    let turn := fun i => (before.turn p.settings.parcel messages i).messages
    (∀ m, turn m = [] → (∀ i < m, turn i ≠ []) →
      (∀ most ∈ p.settings.retry.maxRounds, m ≤ most + 1) → m ≤ Retry.roundLimit →
        result = some (.ok ⟨∑ i ∈ Finset.range m, (turn i).length, messages.length,
            ∑ i ∈ Finset.Ico 1 m, (turn i).length, m, .zero⟩)
          ∧ after.deliveries = before.deliveries ++ before.delivered p.settings.parcel messages m
          ∧ after.opened = before.opened + m)
      ∧ ∀ most, p.settings.retry.maxRounds = some most → turn (most + 1) ≠ [] →
        most < Retry.roundLimit →
          result = some (.error (.retriesExhausted most (turn (most + 1)).length))
            ∧ after.deliveries
              = before.deliveries ++ before.delivered p.settings.parcel messages (most + 1)
            ∧ after.opened = before.opened + (most + 1) := by
  intro before result after turn
  let elapsed : Client → Span := fun c =>
    ⟨(Client.link.clock c).nanos - (Client.link.clock j.state).nanos⟩
  have hfollows := follows_turns p htimeout hbatch hobliging hlen
  have hrest : j.state.broker.ledger = before.ledgerAfter p.settings.parcel messages 0
      ∧ Known j.state.broker := ⟨ledgerAfter_zero.symm, known_of_reachable hreachable⟩
  have hparts : ∀ k, after.ledger = before.ledgerAfter p.settings.parcel messages k →
      after.deliveries = before.deliveries ++ before.delivered p.settings.parcel messages k
        ∧ after.opened = before.opened + k := fun k h =>
    ⟨congrArg Ledger.deliveries h, congrArg Ledger.opened h⟩
  constructor
  · intro m hlast hne hmost hlimit
    obtain ⟨report, htells, ⟨hledger, -⟩, hresult⟩ := Retry.run_accepted p.settings.retry
      elapsed hfollows hdeadline hrest hlast hne hmost hlimit
    obtain ⟨hconfirmed, hnacked⟩ := htells.last hlast
    rw [htells.published, hconfirmed, hnacked, htells.rounds] at hresult
    exact ⟨hresult, hparts m hledger⟩
  · intro most hmost hne hlimit
    have hall : ∀ i ≤ most + 1, turn i ≠ [] := fun i hi hnil => hne (turn_eq_nil hi hnil)
    obtain ⟨⟨hledger, -⟩, hresult⟩ := Retry.run_exhausted p.settings.retry elapsed hfollows
      hdeadline hrest hall hmost hlimit
    exact ⟨hresult, hparts (most + 1) hledger⟩

end Call

/-- A publisher that sends nothing again. -/
def once : Publisher :=
  ⟨{ Settings.standard with retry := ⟨some 0, none⟩ }, Publisher.check_standard⟩

/-- A broker that refuses the first message of every other session and reports runs. -/
def grudging : Broker :=
  { start with
    script := fun d => if d.tag = 1 ∧ d.session % 2 = 1 then .nack else .ack
    reporting := .cumulative }

theorem publishAll_turns_grudging :
    let messages : List Message := [⟨1, "Hello", .empty, .empty⟩, ⟨2, "GoodBye", .empty, .empty⟩]
    let j : Journaled Client := .start ⟨grudging, 0⟩
    let call := Publisher.standard.publishAll Client.link messages j
    call.1 = some (.ok ⟨3, 2, 1, 2, .zero⟩)
      ∧ call.2.state.broker.deliveries.map (fun d => (d.session, d.tag)) = [(1, 1), (1, 2), (2, 1)]
      ∧ (once.publishAll Client.link messages j).1 = some (.error (.retriesExhausted 0 1)) := by
  intro messages j call
  let turn := fun i => (grudging.turn Settings.standard.parcel messages i).messages
  have hreachable : Reachable Paused grudging :=
    .configured grudging.script .cumulative .zero none false .start
  have hobliging : Obliging grudging.ledger := by
    refine ⟨rfl, rfl, rfl, fun d => ?_⟩
    change (if d.tag = 1 ∧ d.session % 2 = 1 then Ruling.nack else .ack) ≠ .withhold
    split_ifs <;> decide
  have hsome : ∀ i < 2, (turn i).isEmpty = false := by decide +kernel
  have hne : ∀ i < 2, turn i ≠ [] := fun i hi hnil => by simpa [hnil] using hsome i hi
  have hlast : turn 2 = [] := List.isEmpty_iff.1 (by decide +kernel)
  have hpublished : ∑ i ∈ Finset.range 2, (turn i).length = 3 := by decide +kernel
  have hnacked : ∑ i ∈ Finset.Ico 1 2, (turn i).length = 1 := by decide +kernel
  obtain ⟨haccepted, hdeliveries, -⟩ :=
    (publishAll_turns Publisher.standard messages (by decide) j hreachable hobliging rfl
      (by decide +kernel) (by decide +kernel)).1 2 hlast hne
      (fun most hmost => by obtain rfl := Option.some.inj hmost; decide) (by decide +kernel)
  obtain ⟨hexhausted, -⟩ :=
    (publishAll_turns once messages (by decide) j hreachable hobliging rfl (by decide +kernel)
      (by decide +kernel)).2 0 rfl (hne 1 (by decide)) (by decide +kernel)
  refine ⟨haccepted.trans ?_, ?_, hexhausted.trans ?_⟩
  · change some (Except.ok (⟨∑ i ∈ Finset.range 2, (turn i).length, messages.length,
      ∑ i ∈ Finset.Ico 1 2, (turn i).length, 2, .zero⟩ : Report)) = _
    rw [hpublished, hnacked]
    rfl
  · rw [hdeliveries]
    decide +kernel
  · have hleft : (turn 1).length = 1 := by decide +kernel
    exact congrArg (fun n => some (Except.error (Failure.retriesExhausted 0 n))) hleft

end ConfirmedDelivery.Broker
