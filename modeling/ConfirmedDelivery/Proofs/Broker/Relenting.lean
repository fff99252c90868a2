import ConfirmedDelivery.Proofs.Broker.Foretold

/-!
# A call to a broker that relents

Nothing bounds the rounds of a call if its settings do not. What bounds them is how often each message
was sent: a message of the `i`-th turn was sent `i` times before (`count_of_turn`), so a broker that
takes whatever was sent more than `k` times before it refuses nothing after `k + 1` rounds. On such a
broker refusals alone never make a call fail, whatever was published before and whichever messages
share an id (`publishAll_relents`).
-/

namespace ConfirmedDelivery.Broker

section Counts

variable (parcel : Message → Parcel)

theorem count_le_counted (id : MessageId) : ∀ (ms : List Message) (tally : Tally),
    tally.count id ≤ (counted parcel tally ms).count id
  | [], _ => Nat.le_refl _
  | m :: ms, tally => by
    refine Nat.le_trans ?_ (count_le_counted id ms (tally.bump (parcel m).properties.messageId))
    rw [Tally.count_bump]
    exact Nat.le_add_right _ _

theorem counted_le_count (id : MessageId) : ∀ (ms : List Message) (tally : Tally),
    (counted parcel tally ms).count id ≤ tally.count id + ms.length
  | [], _ => Nat.le_refl _
  | m :: ms, tally => by
    refine Nat.le_trans (counted_le_count id ms (tally.bump (parcel m).properties.messageId)) ?_
    rw [Tally.count_bump, List.length_cons]
    split_ifs <;> omega

variable {parcel}

theorem count_lt_counted {m : Message} : ∀ {ms : List Message} (tally : Tally), m ∈ ms →
    tally.count (parcel m).properties.messageId
      < (counted parcel tally ms).count (parcel m).properties.messageId
  | m' :: ms, tally, h => by
    rcases List.mem_cons.1 h with rfl | h
    · refine Nat.lt_of_lt_of_le ?_ (count_le_counted parcel _ ms _)
      rw [Tally.count_bump, if_pos rfl]
      exact Nat.lt_succ_self _
    · refine Nat.lt_of_le_of_lt ?_ (count_lt_counted (tally.bump _) h)
      rw [Tally.count_bump]
      exact Nat.le_add_right _ _

theorem mem_of_sends {n : Nat} {x : Message × Delivery} {ms : List Message} {tag : Tag}
    {tally : Tally} (h : x ∈ sends parcel n tag tally ms) : x.1 ∈ ms := by
  have hmem := List.mem_map_of_mem (f := Prod.fst) h
  rwa [map_fst_sends] at hmem

/-- What is sent was not sent so often before. -/
theorem count_lt_attempt {n : Nat} {x : Message × Delivery} : ∀ {ms : List Message} {tag : Tag}
    {tally : Tally}, x ∈ sends parcel n tag tally ms →
    tally.count (parcel x.1).properties.messageId < x.2.attempt
  | [], _, _, h => absurd h List.not_mem_nil
  | m :: ms, _, tally, h => by
    rcases List.mem_cons.1 h with rfl | h
    · change _ < Tally.count (tally.bump _) _
      rw [Tally.count_bump, if_pos rfl]
      exact Nat.lt_succ_self _
    · refine Nat.lt_of_le_of_lt ?_ (count_lt_attempt h)
      rw [Tally.count_bump]
      exact Nat.le_add_right _ _

end Counts

section Turns

variable {b : Broker} {parcel : Message → Parcel} {messages : List Message}

/-- Before the `i`-th turn its messages were sent `i` times at least, also by other messages of
their ids. -/
theorem count_of_turn : ∀ (i : Nat) {m : Message}, m ∈ (b.turn parcel messages i).messages →
    i ≤ (b.turn parcel messages i).tally.count (parcel m).properties.messageId
  | 0, _, _ => Nat.zero_le _
  | i + 1, m, h => by
    obtain ⟨x, hx, rfl⟩ := List.mem_map.1 h
    have hmem := mem_of_sends (List.mem_of_mem_filter hx)
    exact Nat.lt_of_le_of_lt (count_of_turn i hmem) (count_lt_counted _ hmem)

/-- After `k + 1` turns nothing is refused by a broker that takes what was sent more than `k` times. -/
theorem turn_of_relenting {k : Nat} (hrelents : ∀ d, k < d.attempt → b.script d = .ack) :
    (b.turn parcel messages (k + 1)).messages = [] := by
  change List.map Prod.fst _ = []
  rw [List.map_eq_nil_iff, List.filter_eq_nil_iff]
  intro x hx
  have hcount := count_of_turn k (mem_of_sends hx)
  rw [hrelents x.2 (Nat.lt_of_le_of_lt hcount (count_lt_attempt hx))]
  decide

/-- A message id is counted up at most once for each message and turn, and no turn after the first
`k + 1` counts. -/
theorem count_of_relenting {k : Nat} (hrelents : ∀ d, k < d.attempt → b.script d = .ack)
    (id : MessageId) : ∀ i, (b.turn parcel messages i).tally.count id
      ≤ b.attempts.count id + min i (k + 1) * messages.length
  | 0 => Nat.le_add_right _ _
  | i + 1 => by
    have ih := count_of_relenting hrelents id i
    by_cases hi : i < k + 1
    · have hnext := Nat.le_trans
        (counted_le_count parcel id (b.turn parcel messages i).messages
          (b.turn parcel messages i).tally)
        (Nat.add_le_add ih (length_turn_le b parcel messages i))
      rw [Nat.min_eq_left (Nat.le_of_lt hi), Nat.add_assoc, ← Nat.succ_mul] at hnext
      rwa [Nat.min_eq_left hi]
    · have hnone : (b.turn parcel messages i).messages = [] :=
        turn_eq_nil (Nat.le_of_not_lt hi) (turn_of_relenting hrelents)
      have hsame : (b.turn parcel messages (i + 1)).tally = (b.turn parcel messages i).tally :=
        congrArg (counted parcel _) hnone
      rw [Nat.min_eq_right (Nat.le_of_not_lt hi)] at ih
      rwa [hsame, Nat.min_eq_right (Nat.le_succ_of_le (Nat.le_of_not_lt hi))]

/-- There are no more turns than one message was sent. -/
theorem turns_lt_of_counts {most m : Nat}
    (hcounts : ∀ i id, (b.turn parcel messages i).tally.count id < most + 1)
    (hne : ∀ i < m, (b.turn parcel messages i).messages ≠ []) : m ≤ most := by
  cases m with
  | zero => exact Nat.zero_le _
  | succ i =>
    obtain ⟨x, hx⟩ := List.exists_mem_of_ne_nil _ (hne i (Nat.lt_succ_self i))
    have hlt : i < (b.turn parcel messages (i + 1)).tally.count (parcel x).properties.messageId :=
      Nat.lt_of_le_of_lt (count_of_turn i hx) (count_lt_counted _ hx)
    exact Nat.le_of_lt_succ (Nat.lt_of_le_of_lt hlt (hcounts (i + 1) _))

end Turns

/-- Refusals alone never make a call fail that the broker takes in the end. Where what was sent more
than `k` times is taken, and `k` repeated rounds may be made, a call ends after `k + 1` rounds at most
and every message is accepted, unless a message would be sent 2^32 times. -/
theorem publishAll_relents (p : Publisher) (messages : List Message)
    (hlen : messages.length < 2 ^ 64) (j : Journaled Client)
    (hreachable : Reachable Paused j.state.broker) (hobliging : Obliging j.state.broker.ledger)
    (hdeadline : p.settings.retry.deadlineSecs = none) (htimeout : p.settings.timeout.nanos ≠ 0)
    (hbatch : p.settings.batchConfirmTimeout.nanos ≠ 0) {k : Nat}
    (hrelents : ∀ d, k < d.attempt → j.state.broker.script d = .ack)
    (hrounds : ∀ most ∈ p.settings.retry.maxRounds, k ≤ most)
    (hcounts : ∀ i id,
      (j.state.broker.turn p.settings.parcel messages i).tally.count id < 2 ^ 32) :
    ∃ report, (p.publishAll Client.link messages j).1 = some (.ok report)
      ∧ report.confirmed = messages.length ∧ report.rounds ≤ k + 1 := by
  let before := j.state.broker
  let turn := fun i => (before.turn p.settings.parcel messages i).messages
  let elapsed : Client → Span := fun c =>
    ⟨(Client.link.clock c).nanos - (Client.link.clock j.state).nanos⟩
  have hends : ∃ m, turn m = [] := ⟨k + 1, turn_of_relenting hrelents⟩
  classical
  let m := Nat.find hends
  have hlast : turn m = [] := Nat.find_spec hends
  have hne : ∀ i < m, turn i ≠ [] := fun i hi => Nat.find_min hends hi
  have hmk : m ≤ k + 1 := Nat.find_min' hends (turn_of_relenting hrelents)
  have hlimit : m ≤ Retry.roundLimit := turns_lt_of_counts hcounts hne
  obtain ⟨report, htells, -, hresult⟩ := Retry.run_accepted p.settings.retry elapsed
    (follows_turns p htimeout hbatch hobliging hlen) hdeadline
    ⟨ledgerAfter_zero.symm, known_of_reachable hreachable⟩ hlast hne
    (fun most hmost => Nat.le_trans hmk (Nat.succ_le_succ (hrounds most hmost))) hlimit
  refine ⟨_, hresult, (htells.last hlast).1, ?_⟩
  exact htells.rounds.trans_le hmk

/-- A publisher that sends again as often as it takes. -/
def insistent : Publisher :=
  ⟨{ Settings.standard with retry := ⟨none, none⟩ }, Publisher.check_standard⟩

/-- A broker that takes what was sent twice before. -/
def relenting : Broker :=
  { start with script := fun d => if 2 < d.attempt then .ack else .nack }

theorem publishAll_relents_shared :
    let messages : List Message := [⟨1, "Hello", .empty, .empty⟩, ⟨1, "GoodBye", .empty, .empty⟩]
    let j : Journaled Client := .start ⟨relenting, 0⟩
    ∃ report, (insistent.publishAll Client.link messages j).1 = some (.ok report)
      ∧ report.confirmed = 2 ∧ report.rounds ≤ 3 := by
  intro messages j
  have hreachable : Reachable Paused relenting :=
    .configured relenting.script .individual .zero none false .start
  have hobliging : Obliging relenting.ledger := by
    refine ⟨rfl, rfl, rfl, fun d => ?_⟩
    change (if 2 < d.attempt then Ruling.ack else .nack) ≠ .withhold
    split_ifs <;> decide
  have hrelents : ∀ d, 2 < d.attempt → relenting.script d = .ack := fun d hd => if_pos hd
  have hcounts : ∀ i id,
      (relenting.turn insistent.settings.parcel messages i).tally.count id < 2 ^ 32 := by
    intro i id
    have hcount : (relenting.turn insistent.settings.parcel messages i).tally.count id
      ≤ 0 + min i 3 * 2 := count_of_relenting hrelents id i
    omega
  exact publishAll_relents insistent messages (by decide) j hreachable hobliging rfl
    (by decide +kernel) (by decide +kernel) hrelents (fun _ hmost => absurd hmost (by rintro ⟨⟩))
    hcounts

end ConfirmedDelivery.Broker
