import ConfirmedDelivery.Proofs.Broker.Reachable

/-!
# Sessions that pass while somebody waits

What a broker has got and how it is set up stand in its ledger, which no pass changes
(`Interlude.ledger`). On a clock that stands still unless everyone waits, a pass is due later only
for a session that was opened (`known_of_reachable`): so a new session is not among them, and its
first pass begins as soon as somebody waits.
-/

namespace ConfirmedDelivery

/-- The states that a lull goes through. -/
def Lull.Visits {ε σ : Type} : Lull ε σ → σ → Prop
  | .timeUp _ s, s' => s' = s
  | .stir _ s next, s' => s' = s ∨ next.Visits s'

namespace Broker

/-! ## The ledger -/

/-- What was got, and what decides how a call goes. -/
structure Ledger where
  script : Script
  limit : Option Nat
  delay : Span
  disconnected : Bool
  deliveries : List Delivery
  attempts : Tally
  opened : Nat

/-- The ledger of a broker. -/
def ledger (b : Broker) : Ledger :=
  ⟨b.script, b.limit, b.delay, b.disconnected, b.deliveries, b.attempts, b.opened⟩

/-- Whatever is done to a session, the ledger is the same if nothing else in it changes. -/
theorem ledger_updated {b b' : Broker} {n : Nat} {f : Session → Session}
    (hsessions : b'.sessions = (b.update n f).sessions)
    (hrest : { b'.ledger with opened := b.opened } = b.ledger) : b'.ledger = b.ledger := by
  rw [← hrest, ← opened_updated hsessions]
  rfl

section Passes

variable {b b' : Broker} {heard : List Heard}

theorem ledger_passFirst (b : Broker) (k n : Nat) : (b.passFirst k n).1.ledger = b.ledger := by
  rcases hs : b.session? n with _ | s
  · rw [passFirst_none hs]
  · obtain ⟨queues, confirms, heq, -⟩ := passFirst_eq hs k
    rw [heq]
    exact ledger_updated rfl rfl

theorem contains_passFirst {q : String} (h : b.queues.contains q = true) (k n : Nat) :
    (b.passFirst k n).1.queues.contains q = true := by
  rcases hs : b.session? n with _ | s
  · rwa [passFirst_none hs]
  · obtain ⟨queues, confirms, heq, hkeeps⟩ := passFirst_eq hs k
    rw [heq]
    exact hkeeps.contains q h

theorem due_passFirst (b : Broker) (k n : Nat) : (b.passFirst k n).1.due = b.due := by
  rcases hs : b.session? n with _ | s
  · rw [passFirst_none hs]
  · obtain ⟨queues, confirms, heq, -⟩ := passFirst_eq hs k
    rw [heq]
    rfl

theorem transmits_passFirst (b : Broker) (k n : Nat) :
    (b.passFirst k n).1.transmits = b.transmits := by
  rcases hs : b.session? n with _ | s
  · rw [passFirst_none hs]
  · obtain ⟨queues, confirms, heq, -⟩ := passFirst_eq hs k
    rw [heq]
    rfl

theorem Interlude.transmits (h : Interlude b heard b') : b'.transmits = b.transmits := by
  induction h with
  | nothing => rfl
  | clock _ _ _ _ _ ih => exact ih
  | pass k n _ ih => rw [ih, transmits_passFirst]

/-- Nothing is got and nothing is set up while no call runs. -/
theorem Interlude.ledger (h : Interlude b heard b') : b'.ledger = b.ledger := by
  induction h with
  | nothing => rfl
  | clock _ _ _ _ _ ih => exact ih
  | pass k n _ ih => rw [ih, ledger_passFirst]

/-- No destination is lost while no call runs. -/
theorem Interlude.contains (h : Interlude b heard b') {q : String}
    (hq : b.queues.contains q = true) : b'.queues.contains q = true := by
  induction h with
  | nothing => exact hq
  | clock _ _ _ _ _ ih => exact ih hq
  | pass k n _ ih => exact ih (contains_passFirst hq k n)

theorem due_passAll : ∀ (ns : List Nat) (b : Broker), (passAll ns b).1.due = b.due
  | [], _ => rfl
  | n :: ns, b => by
    change (passAll ns (b.pass n).1).1.due = b.due
    rw [due_passAll ns, pass, due_passFirst]

end Passes

/-! ## Passes to come -/

/-- The sessions whose passes are to report at a later time. -/
def scheduled (b : Broker) : List Nat := b.due.values.flatten

theorem mem_scheduled {b : Broker} {m : Nat} :
    m ∈ b.scheduled ↔ ∃ e ∈ b.due.entries, m ∈ e.2 := by
  unfold scheduled Dict.values
  rw [List.mem_flatten]
  constructor
  · rintro ⟨ns, hns, hm⟩
    obtain ⟨e, he, rfl⟩ := List.mem_map.1 hns
    exact ⟨e, he, hm⟩
  · rintro ⟨e, he, hm⟩
    exact ⟨e.2, List.mem_map_of_mem he, hm⟩

theorem scheduled_keep {b : Broker} {p : Nat → List Nat → Bool} {m : Nat}
    (h : m ∈ ({ b with due := b.due.keep p } : Broker).scheduled) : m ∈ b.scheduled := by
  obtain ⟨e, he, hm⟩ := mem_scheduled.1 h
  exact mem_scheduled.2 ⟨e, List.mem_of_mem_filter he, hm⟩

/-- A session that is not to pass later is ready to pass once it is woken. -/
theorem wake_ready {b : Broker} {n : Nat} (h : n ∉ b.scheduled) :
    ∃ ready, b.wake n = { b with ready } ∧ n ∈ ready := by
  have hdue : b.due.values.any (·.contains n) = false := by
    refine List.any_eq_false.2 fun ns hns hn => h ?_
    exact List.mem_flatten.2 ⟨ns, hns, List.contains_iff_mem.1 hn⟩
  unfold wake
  rw [hdue, Bool.or_false]
  split_ifs with hready
  · exact ⟨b.ready, rfl, List.contains_iff_mem.1 hready⟩
  · exact ⟨b.ready ++ [n], rfl, List.mem_append_right _ (List.mem_singleton.2 rfl)⟩

/-- A pass is put off for a session with a delay only. -/
theorem scheduled_beginPass {b : Broker} {m n : Nat} (h : m ∈ (b.beginPass n).1.scheduled) :
    m ∈ b.scheduled ∨ m = n ∧ ∃ s, b.session? n = some s ∧ s.delay.nanos ≠ 0 := by
  unfold beginPass at h
  rcases hs : b.session? n with _ | s
  · rw [hs] at h
    exact .inl h
  · rw [hs] at h
    dsimp only at h
    split_ifs at h with hempty hdelay
    · exact .inl h
    · unfold scheduled at h
      rw [pass, due_passFirst] at h
      exact .inl h
    · obtain ⟨e, he, hm⟩ := mem_scheduled.1 h
      rcases Dict.mem_entries_insert.1 he with rfl | ⟨he, -⟩
      · rcases List.mem_append.1 hm with hm | hm
        · rcases hold : b.due.get? (b.now + s.delay.waitMillis) with _ | ns
          · rw [hold] at hm
            exact absurd hm List.not_mem_nil
          · rw [hold] at hm
            exact .inl (mem_scheduled.2 ⟨_, Dict.get?_eq_some.1 hold, hm⟩)
        · exact .inr ⟨List.mem_singleton.1 hm, s, rfl, hdelay⟩
      · exact .inl (mem_scheduled.2 ⟨e, he, hm⟩)

/-- Every session that is to pass later was opened. -/
def Known (b : Broker) : Prop := ∀ m ∈ b.scheduled, m ≤ b.opened

theorem Known.mono {b b' : Broker} (h : Known b) (hscheduled : b'.scheduled ⊆ b.scheduled)
    (hopened : b.opened ≤ b'.opened) : Known b' :=
  fun m hm => Nat.le_trans (h m (hscheduled hm)) hopened

section Waiting

variable {b b' : Broker}

theorem opened_of_ledger (h : b'.ledger = b.ledger) : b'.opened = b.opened :=
  congrArg Ledger.opened h

theorem known_passAll (h : Known b) (ns : List Nat) : Known (passAll ns b).1 := by
  refine h.mono (fun m hm => ?_) (opened_of_ledger (interlude_passAll ns b).ledger).ge
  unfold scheduled at hm
  rwa [due_passAll] at hm

theorem known_beginPass (h : Known b) (n : Nat) : Known (b.beginPass n).1 := by
  intro m hm
  rw [opened_of_ledger (interlude_beginPass b n).ledger]
  rcases scheduled_beginPass hm with hm | ⟨rfl, s, hs, -⟩
  · exact h m hm
  · exact (lt_of_session? hs).2

theorem known_beginAll : ∀ (ns : List Nat) {b : Broker}, Known b → Known (beginAll ns b).1
  | [], _, h => h
  | n :: ns, _, h => known_beginAll ns (known_beginPass h n)

theorem known_runReady (h : Known b) : Known b.runReady.1 := by
  have hkept : Known ({ b with due := b.due.keep fun time _ => decide (b.now < time) } : Broker) :=
    h.mono (fun _ hm => scheduled_keep hm) (Nat.le_refl _)
  exact known_beginAll _ (b := { (passAll _ _).1 with ready := [] }) (known_passAll hkept _)

theorem known_lullUntil (deadline : Nat) : ∀ (times : List (Nat × List Nat)) {b b' : Broker},
    Known b → (lullUntil deadline times b).Visits b' → Known b'
  | [], _, _, h, hvisits => by
    obtain rfl := hvisits
    exact h
  | (time, ns) :: times, b, b', h, hvisits => by
    unfold lullUntil at hvisits
    split_ifs at hvisits
    · obtain rfl := hvisits
      exact h
    · have hkept : Known ({ b with
          now := time, due := b.due.keep fun t _ => decide (time < t) } : Broker) :=
        h.mono (fun _ hm => scheduled_keep (b := b) hm) (Nat.le_refl _)
      have hpassed := known_passAll hkept ns
      rcases hvisits with rfl | hvisits
      · exact hpassed
      · exact known_lullUntil deadline times hpassed hvisits

theorem known_lull (h : Known b) {timeout : Span} (hvisits : (b.lull timeout).Visits b') :
    Known b' := by
  unfold lull at hvisits
  dsimp only at hvisits
  split_ifs at hvisits
  · obtain rfl := hvisits
    exact h
  · have hready := known_runReady h
    rcases hvisits with rfl | hvisits
    · exact hready
    · exact known_lullUntil _ _ hready hvisits

end Waiting

/-- What may happen to a broker while no call runs, on a clock that stands still unless everyone
waits: somebody waits for some time, and sees the broker in any of the states it goes through. -/
def Paused (b b' : Broker) : Prop :=
  ∃ waits timeout, (({ b with waits } : Broker).lull timeout).Visits b'

theorem Interludes.visits : ∀ (lull : Lull Heard Broker) {b b' : Broker}, Interludes b lull →
    lull.Visits b' → ∃ heard, Interlude b heard b'
  | .timeUp heard _, _, _, h, hvisits => ⟨heard, hvisits ▸ h⟩
  | .stir heard _ next, _, _, ⟨h, hnext⟩, hvisits => by
    rcases hvisits with rfl | hvisits
    · exact ⟨heard, h⟩
    · obtain ⟨more, hmore⟩ := hnext.visits next hvisits
      exact ⟨heard ++ more, h.trans hmore⟩

theorem Paused.interlude {b b' : Broker} (h : Paused b b') : ∃ heard, Interlude b heard b' := by
  obtain ⟨waits, timeout, hvisits⟩ := h
  obtain ⟨heard, hidle⟩ := (interludes_lull { b with waits } timeout).visits _ hvisits
  exact ⟨heard, .clock waits b.now b.ready b.due hidle⟩

section Calls

variable {b : Broker} (n : Nat)

theorem scheduled_shut {m : Nat} (h : m ∈ (b.shut n).scheduled) : m ∈ b.scheduled := by
  obtain ⟨e, he, hm⟩ := mem_scheduled.1 h
  have hdue : (b.shut n).due = b.due.mapValues fun _ ns => ns.filter (· ≠ n) := by
    unfold shut
    rw [update_eq]
    rfl
  rw [hdue] at he
  obtain ⟨e', he', rfl⟩ := List.mem_map.1 he
  exact mem_scheduled.2 ⟨e', he', List.mem_of_mem_filter hm⟩

theorem ledger_shut : (b.shut n).ledger = b.ledger := by
  refine ledger_updated (n := n) (f := Session.shut) rfl ?_
  unfold shut
  rw [update_eq]
  rfl

theorem Known.shut (h : Known b) : Known (b.shut n) :=
  h.mono (fun _ hm => scheduled_shut n hm) (opened_of_ledger (ledger_shut n)).ge

theorem Known.update {b' : Broker} {f : Session → Session} (h : Known b)
    (hsessions : b'.sessions = (b.update n f).sessions) (hdue : b'.due = b.due) : Known b' := by
  refine h.mono (fun m hm => ?_) (opened_updated hsessions).ge
  unfold scheduled at hm
  rwa [hdue] at hm

theorem Known.transmit (h : Known b) (destination : String) (properties : Properties)
    (body : ByteArray) : Known (b.transmit n destination properties body).state := by
  rcases transmit_cases b n destination properties body with
    ⟨fault, transmits, heq⟩ | ⟨s, transmits, -, -, ⟨-, ready, heq⟩ | ⟨-, heq⟩⟩
  · rw [heq]
    exact h
  · rw [heq]
    exact h.update n (f := Session.sent _) rfl rfl
  · rw [heq]
    exact h

/-- A message is sent where its destination exists, confirms are on and the limit is not reached; the
session is then ready to pass. -/
theorem transmit_eq {b : Broker} {n : Nat} {s : Session} {destination : String}
    (hs : b.session? n = some s) (hopen : s.closed = false) (hconfirming : s.confirming = true)
    (hroom : ∀ most ∈ b.limit, b.transmits < most)
    (hknown : b.queues.contains destination = true) (hunscheduled : n ∉ b.scheduled)
    (properties : Properties) (body : ByteArray) :
    let d := b.sentAs n s.nextTag destination properties body
    ∃ ready, n ∈ ready ∧ b.transmit n destination properties body
      = ⟨.ok s.nextTag, [], [.transmitted n s.nextTag destination],
        { b with
          sessions := (b.update n (Session.sent d)).sessions
          attempts := Tally.bump properties.messageId b.attempts
          deliveries := b.deliveries ++ [d]
          transmits := b.transmits + 1
          ready }⟩ := by
  intro d
  let b' : Broker := { b with
    transmits := b.transmits + 1
    attempts := Tally.bump properties.messageId b.attempts
    deliveries := b.deliveries ++ [d] }
  have hdue : (b'.update n (Session.sent d)).due = b.due := by
    rw [update_eq]
    rfl
  have hlater : n ∉ (b'.update n (Session.sent d)).scheduled := by
    unfold scheduled at hunscheduled ⊢
    rwa [hdue]
  obtain ⟨ready, hwake, hready⟩ := wake_ready hlater
  have hlimit : ¬ b.limit.any (fun most => decide (most ≤ b.transmits)) = true := fun hany => by
    obtain ⟨most, hmost, hle⟩ := (Option.any_eq_true _ _).1 hany
    exact Nat.not_le_of_lt (hroom most hmost) (of_decide_eq_true hle)
  refine ⟨ready, hready, ?_⟩
  unfold transmit
  rw [openSession?_of_session hs hopen]
  dsimp only
  rw [if_neg (by simp [hknown]), if_neg hlimit, if_pos hconfirming]
  change (⟨_, _, _, (b'.update n (Session.sent d)).wake n⟩ : Answer Tag) = _
  rw [hwake, update_eq]
  cases n <;> rfl

/-- Once the limit is reached, no message is sent. -/
theorem transmit_full {b : Broker} {n most : Nat} {s : Session} {destination : String}
    (hs : b.session? n = some s) (hopen : s.closed = false) (hlimit : b.limit = some most)
    (hfull : most ≤ b.transmits) (hknown : b.queues.contains destination = true)
    (properties : Properties) (body : ByteArray) :
    b.transmit n destination properties body
      = .quiet (.error (.connectionClosed "connection reset during transmit"))
        { b with transmits := b.transmits + 1 } := by
  unfold transmit
  rw [openSession?_of_session hs hopen]
  dsimp only
  rw [if_neg (by simp [hknown]), hlimit, Option.any_some, if_pos (decide_eq_true hfull)]

end Calls

theorem known_of_reachable {b : Broker} (h : Reachable Paused b) : Known b := by
  induction h with
  | start => exact fun m hm => absurd hm List.not_mem_nil
  | configured _ _ _ _ _ _ ih => exact ih
  | @openSession b _ ih =>
    rcases openSession_cases b with ⟨-, heq⟩ | ⟨-, heq⟩
    · rw [heq]
      exact ih
    · rw [heq]
      exact ih.mono (List.Subset.refl _) ((opened_push b _).ge.trans' (Nat.le_succ _))
  | @listen b n l _ ih =>
    refine ih.update n rfl ?_
    unfold Broker.listen
    rw [update_eq]
    rfl
  | @enableConfirms b n _ ih =>
    unfold Broker.enableConfirms
    split
    · exact ih
    · split_ifs
      · exact ih
      · refine ih.update n rfl ?_
        rw [update_eq]
        rfl
  | @declare b n destination _ ih =>
    unfold Broker.declare
    split
    · exact ih
    · exact ih
  | transmit n destination properties body _ ih => exact ih.transmit n destination properties body
  | @close b n _ ih =>
    unfold Broker.close
    split
    · exact ih
    · exact ih.shut n
  | @discard b n _ ih =>
    unfold Broker.discard
    split
    · exact ih
    · exact ih.shut n
  | @idle b b' _ hpaused ih =>
    obtain ⟨waits, timeout, hvisits⟩ := hpaused
    have hwaiting : Known ({ b with waits } : Broker) := ih
    exact known_lull hwaiting hvisits

end Broker

end ConfirmedDelivery
