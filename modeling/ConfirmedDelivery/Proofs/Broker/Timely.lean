import ConfirmedDelivery.Proofs.Broker.Abreast
import ConfirmedDelivery.Proofs.Telling

/-!
# Rounds that wait in time

A round over a broker in memory is an exchange on the session that it opened (`paced_going`), so the
session and the books are abreast all along. A round that waits for each batch has nothing in flight
whenever it begins another one: its transcript never shows more than a batch in flight, and after the
last batch there is nothing left to wait for (`never_drift_apart`). This needs that a wait that comes
back in time saw everything answered for (`Honest`).
-/

namespace ConfirmedDelivery

/-! ## How much is in flight -/

/-- Never in this history are more than `limit` messages in flight. -/
def Weighed (limit : Nat) (h : List (Posting Message)) : Prop :=
  ∀ i, ((∅ : Books Message).replay (h.take i)).unanswered.length ≤ limit

theorem weighed_nil (limit : Nat) : Weighed limit [] := fun i => by
  rw [List.take_nil]
  exact Nat.zero_le _

theorem Weighed.append {limit : Nat} {h : List (Posting Message)} (hweighed : Weighed limit h)
    {p : Posting Message}
    (hp : ((∅ : Books Message).replay (h ++ [p])).unanswered.length ≤ limit) :
    Weighed limit (h ++ [p]) := by
  intro i
  rcases Nat.lt_or_ge h.length i with hi | hi
  · rwa [List.take_of_length_le (by simpa using hi)]
  · rw [List.take_append_of_le_length hi]
    exact hweighed i

/-- A round that never has more in flight than it sent since it last waited never has more than a
batch in flight. -/
theorem kept_weighed {σ : Type} {link : Link σ} {settings : Settings}
    {during : Nat → List Message → List String → Overheard σ → Books Message → Prop}
    (hpacing : settings.pacing ≠ .streaming)
    (hsize : ∀ {k done declared o b}, during k done declared o b → b.unanswered.length ≤ k) :
    Kept link settings during (Weighed settings.chunkSize) where
  nil := weighed_nil _
  heard h c hweighed := by
    refine hweighed.append ?_
    have hall := hweighed h.length
    rw [List.take_length] at hall
    rw [Books.replay_append]
    exact (Books.length_handleAll [c] _).trans hall
  sent {k done declared o b b' m h} hd hk hadd hbooks hweighed := by
    refine hweighed.append ?_
    have hsize := hsize hd
    have hk := hk hpacing
    rw [Books.replay_append, ← hbooks, Books.replay_of_recorded hadd]
    change b'.unanswered.length ≤ _
    rw [(Books.add?_eq_some hadd).2.1.length_eq, List.length_cons]
    omega

namespace Broker

variable {σ : Type} {view : σ → Client} {link : Link σ}

/-! ## Overheard links serve as well -/

theorem calls_overheard {α : Type} {o : Overheard σ} {op : Broker → Nat → Answer α}
    {before : List Passage} {f : σ → Reply Confirm σ α} (h : Calls view o.state op (f o.state)) :
    Calls (fun o => view o.state) o op (o.hear before f) := h

theorem idles_overheard : ∀ (lull : Lull Confirm σ) {s : σ}
    {sessions sessions' : List (List Passage)},
    Idles view s lull → Idles (fun o => view o.state) (⟨s, sessions'⟩ : Overheard σ)
      (lull.overheard sessions)
  | .timeUp _ _, _, _, _, h => h
  | .stir _ _ next, _, _, _, ⟨h, hnext⟩ => ⟨h, idles_overheard next hnext⟩

theorem Serves.overheard (h : Serves view link) :
    Serves (fun o => view o.state) link.overheard where
  openSession o := h.openSession o.state
  listen o := h.listen o.state
  enableConfirms o := calls_overheard (h.enableConfirms o.state)
  nextTag o := h.nextTag o.state
  declare destination o := calls_overheard (h.declare destination o.state)
  transmit destination properties body o :=
    calls_overheard (h.transmit destination properties body o.state)
  awaitConfirms timeout o := h.awaitConfirms timeout o.state
  lull timeout o := idles_overheard _ (h.lull timeout o.state)
  close o := calls_overheard (h.close o.state)

theorem Honest.overheard (h : Honest view link) :
    Honest (fun o => view o.state) link.overheard := fun timeout o => h timeout o.state

/-! ## The round -/

/-- After a failure the client and the books have come there by an exchange, and a round that waits
for each batch has not failed because it waited in vain for the rest. -/
def Halted (view : σ → Client) (settings : Settings) (n : Nat) (e : Failure) (s : σ)
    (b : Books Message) : Prop :=
  (settings.pacing ≠ .streaming → ∀ left timeout, e ≠ .confirmationTimeout left timeout)
    ∧ (view s).session = n
    ∧ ∃ k unsent recorded, Going settings.parcel n k unsent recorded (view s).broker b

section Round

variable {settings : Settings} {n k recorded : Nat} {unsent : Option Message}

theorem Going.halted {e : Failure} {s : σ} {b : Books Message}
    (h : Going settings.parcel n k unsent recorded (view s).broker b) (hn : (view s).session = n)
    (he : settings.pacing ≠ .streaming → ∀ left timeout, e ≠ .confirmationTimeout left timeout) :
    Halted view settings n e s b := ⟨he, hn, k, unsent, recorded, h⟩

theorem Going.waits {parcel : Message → Parcel} {s s' : σ} {b : Books Message}
    {events : List Confirm} (h : Going parcel n k unsent recorded (view s).broker b)
    (hn : (view s).session = n) (hwaits : Waits view s events s') :
    (view s').session = n
      ∧ Going parcel n k unsent recorded (view s').broker (b.handleAll events) := by
  obtain ⟨heard, hidle, hsession, rfl⟩ := hwaits
  rw [hn]
  exact ⟨hsession.trans hn, stable_going _ _ _ _ h hidle⟩

theorem Going.lull (hpacing : settings.pacing = .streaming) (e : Books Message → Failure) :
    ∀ (lull : Lull Confirm σ) {s : σ} {b : Books Message},
      Going settings.parcel n k unsent recorded (view s).broker b → (view s).session = n →
      Idles view s lull →
      lull.Keeps (fun s b => (view s).session = n
          ∧ Going settings.parcel n k unsent recorded (view s).broker b)
        (fun s b => Halted view settings n (e b) s b) b
  | .timeUp _ _, _, _, h, hn, hwaits =>
    (h.waits hn hwaits).2.halted (h.waits hn hwaits).1 fun hpaced => absurd hpacing hpaced
  | .stir _ _ next, _, _, h, hn, ⟨hwaits, hnext⟩ =>
    ⟨h.waits hn hwaits,
      fun _ => Going.lull hpacing e next (h.waits hn hwaits).2 (h.waits hn hwaits).1 hnext⟩

theorem Going.closed (hserves : Serves view link) {parcel : Message → Parcel} {s : σ}
    {b : Books Message} (h : Going parcel n k unsent recorded (view s).broker b)
    (hn : (view s).session = n) :
    (view (link.close s).state).session = n
      ∧ Going parcel n k unsent recorded (view (link.close s).state).broker
        (b.handleAll (link.close s).events) := by
  have hends := ends_of_calls (hserves.close s) hn (P := Going parcel n k unsent recorded)
    (Q := fun _ => Going parcel n k unsent recorded) (F := Going parcel n k unsent recorded)
    stable_going (fun _ => stable_going) stable_going h
    (fun b books h => by split <;> exact h.close)
  unfold Reply.Ends at hends
  split at hends <;> exact hends

theorem Going.drained {parcel : Message → Parcel} {b : Broker} {books : Books Message}
    (h : Going parcel n 0 unsent recorded b books) : books.inFlight.drained = true :=
  (Books.drained_iff h.current).2 (List.length_eq_zero_iff.1 (Nat.le_zero.1 h.size))

/-- A round over a broker in memory is an exchange on its session. If it waits for each batch,
nothing is in flight that was sent before it last waited, so it has nothing left to wait for at its
end. -/
theorem paced_going (hserves : Serves view link) (hhonest : Honest view link)
    {messages : List Message} (hlen : messages.length < 2 ^ 64) {s₀ : σ}
    (hn : (view s₀).session = n) (hnew : ∃ s, Untouched n none (view s₀).broker s) :
    Round.Paced link settings messages s₀
      (fun k done _ s b => (view s).session = n
        ∧ Going settings.parcel n k none done.length (view s).broker b)
      (fun e _ => Halted view settings n e) where
  enable := by
    obtain ⟨l, hlisten⟩ := hserves.listen s₀
    rw [hn] at hlisten
    obtain ⟨s, hnew⟩ := hnew
    have hlistened := hnew.listen l
    have hends := ends_of_calls (n := n) (hserves.enableConfirms (link.listen s₀)) (by rw [hlisten])
      (P := fun b books => books = ∅ ∧ ∃ s, Untouched n (some l) b s)
      (Q := fun _ => Going settings.parcel n 0 none 0) (F := fun _ _ => False)
      (fun _ _ _ _ h hidle => by
        obtain ⟨hbooks, s, hs⟩ := h
        exact ⟨hbooks ▸ Books.handleAll_empty _, hs.interlude hidle⟩)
      (fun _ => stable_going) (fun _ _ _ _ h _ => h.elim)
      ⟨rfl, _, by rw [hlisten]; exact hlistened⟩
      (fun b books h => by
        obtain ⟨hbooks, s, hs⟩ := h
        obtain ⟨hanswer, hgoing⟩ := hs.enabled settings.parcel
        rw [hanswer, hbooks]
        exact hgoing)
    exact hends.imp (fun _ _ _ h => h) fun _ _ _ h => h.2.elim
  declare {k done declared s b} destination h _ := by
    have hends := ends_of_calls (hserves.declare destination s) h.1
      (P := Going settings.parcel n k none done.length)
      (Q := fun _ => Going settings.parcel n k none done.length)
      (F := Going settings.parcel n k none done.length)
      stable_going (fun _ => stable_going) stable_going h.2
      (fun b books h => by split <;> exact h.declare destination)
    exact hends.imp (fun _ _ _ h => h) fun _ _ _ h => h.2.halted h.1 fun _ _ _ => by rintro ⟨⟩
  duplicate h _ _ := h.2.halted h.1 fun _ _ _ => by rintro ⟨⟩
  transmit {k done declared s b b' m} h hdone _ _ hadd := by
    have hfew : done.length + 1 < 2 ^ 64 := by
      have := hdone.length_le
      rw [List.length_append, List.length_singleton] at this
      omega
    have hnext : link.nextTag s = UInt64.ofNat (done.length + 1) := by
      rw [hserves.nextTag, h.1]
      exact h.2.nextTag
    rw [hserves.nextTag, h.1] at hadd
    have hends := ends_of_calls (hserves.transmit m.destination
        (m.properties settings.contentType settings.persistent) m.body s) h.1
      (P := Going settings.parcel n (k + 1) (some m) (done.length + 1))
      (Q := fun tag b books => tag = UInt64.ofNat (done.length + 1)
        ∧ Going settings.parcel n (k + 1) none (done.length + 1) b books)
      (F := Going settings.parcel n (k + 1) (some m) (done.length + 1))
      stable_going (fun _ _ _ _ _ h hidle => ⟨h.1, stable_going _ _ _ _ h.2 hidle⟩)
      stable_going (h.2.record hfew hadd)
      (fun b books h => by
        have hsend := h.send
        cases hanswer : (b.transmit n m.destination
            (m.properties settings.contentType settings.persistent) m.body).answer with
        | ok tag | error fault =>
          rw [show (Exchange.transmission (settings.parcel m) b n).answer = _ from hanswer] at hsend
          exact hsend)
    refine hends.imp (fun tag s' b hends => ?_) fun _ _ _ h =>
      h.2.halted h.1 fun _ _ _ => by rintro ⟨⟩
    obtain ⟨hn', htag, hgoing⟩ := hends
    rw [if_pos (htag.trans hnext.symm), List.length_append]
    exact ⟨hn', hgoing⟩
  await {k done declared s b} i h _ _ := by
    obtain ⟨hsession, hgoing⟩ := h.2.waits h.1 (hserves.awaitConfirms _ s)
    unfold Reply.Ends
    split
    next inTime hok =>
      dsimp only
      split_ifs with htrue
      · subst htrue
        have hall := hhonest _ s hok
        rw [h.1] at hall
        exact ⟨hsession, hgoing.emptied hall⟩
      · exact hgoing.halted hsession fun _ _ _ => by rintro ⟨⟩
    next => exact hgoing.halted hsession fun _ _ _ => by rintro ⟨⟩
  lull {k declared s b} h hk hdrained := by
    by_cases hpacing : settings.pacing = .streaming
    · exact (Going.lull hpacing (fun b => .confirmationTimeout b.inFlight.size settings.timeout) _
        h.2 h.1 (hserves.lull settings.timeout s)).if_drained
    · -- a round that waits has just waited, so nothing is in flight and the lull does not begin
      have hgoing := h.2
      rw [hk hpacing] at hgoing
      rw [hgoing.drained] at hdrained
      exact absurd hdrained Bool.noConfusion

end Round

theorem untouched_of_opened (hserves : Serves view link) {s : σ}
    (hopen : (link.openSession s).answer = .ok ()) :
    let c := view (link.openSession s).state
    ∃ session, Untouched c.session none c.broker session := by
  intro c
  obtain ⟨b, heard, heard', -, hanswer, hafter, hsession⟩ := hserves.openSession s
  rw [hopen] at hanswer
  cases hn : b.openSession.answer with
  | error fault =>
    rw [hn] at hanswer
    exact absurd hanswer (by rintro ⟨⟩)
  | ok n =>
    obtain rfl := hsession n hn
    exact (untouched_openSession hn).interlude hafter

/-- What a round did comes from an exchange on the session that it opened, closed at its end. -/
theorem conduct_exchanges (hserves : Serves view link) (hhonest : Honest view link) (p : Publisher)
    {messages : List Message} (hlen : messages.length < 2 ^ 64) (number : Nat) (j : Journaled σ)
    (hopen : (link.openSession j.state).answer = .ok ()) :
    ∃ e, Exchange.Reached p.settings.parcel e ∧ e.recorded < 2 ^ 64
      ∧ e.client = view (p.conduct link number messages j).2.state
      ∧ ∀ outcome, (p.conduct link number messages j).1 = .ok outcome →
        outcome = ⟨messages.length, e.books.acked, e.books.rejected⟩ := by
  have hsize : 0 < p.settings.chunkSize := p.chunkSize_pos
  have hends := Round.conduct_concludes_paced j number hsize fun _ =>
    paced_going hserves hhonest hlen rfl (untouched_of_opened hserves hopen)
  change Round.Concludes _ _ _ _ _ (p.conduct link number messages j).1
    (p.conduct link number messages j).2.state at hends
  have reached {s : σ} {b : Books Message} {k recorded : Nat} {unsent : Option Message} {n : Nat}
      (h : Going p.settings.parcel n k unsent recorded (view s).broker b)
      (hn : (view s).session = n) :
      Exchange.Reached p.settings.parcel
        ⟨view (link.close s).state, b.handleAll (link.close s).events, unsent, recorded⟩ := by
    obtain ⟨hsession, hclosed⟩ := h.closed hserves hn
    have := hclosed.reached
    rwa [← hsession] at this
  generalize p.conduct link number messages j = r at hends ⊢
  obtain ⟨result, j'⟩ := r
  cases result with
  | ok outcome =>
    obtain ⟨declared, s, b, ⟨k, -, hn, hgoing⟩, -, -, hstate, rfl⟩ := hends
    refine ⟨_, reached hgoing hn, hgoing.few, congrArg view hstate.symm, fun _ heq => ?_⟩
    exact (Except.ok.inj heq).symm
  | error e =>
    rcases hends with ⟨fault, hfault, -, -⟩ | ⟨done, s, b, -, ⟨-, hn, _, _, _, hgoing⟩, -, hstate⟩
    · exact absurd (hopen.symm.trans hfault) (by rintro ⟨⟩)
    · exact ⟨_, reached hgoing hn, hgoing.few, congrArg view hstate.symm, fun _ => nofun⟩

/-- A round that waits for each batch never has more than a batch in flight, and never waits in vain
for the rest. -/
theorem conduct_timely (hserves : Serves view link) (hhonest : Honest view link) (p : Publisher)
    (hpacing : p.settings.pacing ≠ .streaming) {messages : List Message}
    (hlen : messages.length < 2 ^ 64) (number : Nat) (j : Journaled σ) :
    (∀ left timeout,
        (p.conduct link number messages j).1 ≠ .error (.confirmationTimeout left timeout))
      ∧ ∃ session, (p.conduct link.overheard number messages
          ⟨Overheard.start j.state, j.journal⟩).2.state.sessions = [session]
        ∧ ∀ i, ((∅ : Books Message).replay ((postings messages session).take i)).inFlight.size
          ≤ p.settings.chunkSize := by
  obtain ⟨h, hsessions, hitems, hweighed, hend⟩ :=
    p.conduct_told link number messages j (kept_weighed hpacing fun h => h.2.size) fun hopen =>
      paced_going hserves.overheard hhonest.overheard hlen rfl
        (untouched_of_opened hserves.overheard hopen)
  refine ⟨fun left timeout heq => ?_, _, hsessions, fun i => ?_⟩
  · rw [← (p.overhearRound_alike link number messages j).1] at heq
    rw [heq] at hend
    obtain ⟨fault, hfault⟩ | ⟨-, -, -, -, hfailed, -⟩ := hend
    · exact absurd hfault (by rintro ⟨⟩)
    · exact hfailed hpacing left timeout rfl
  · rw [postings_erase_of_items hitems]
    exact hweighed i

/-- The session, its passes and the books never drift apart. In every state of an exchange they are
abreast; a round over a broker in memory is an exchange; and if it waits for each batch, it never has
more than a batch in flight and never waits in vain for the rest. -/
theorem never_drift_apart :
    (∀ (parcel : Message → Parcel) (e₀ : Exchange) (acts : List Act), e₀.Fresh →
      let e := (e₀.run parcel acts).1
      e.recorded < 2 ^ 64 →
        ∃ s, e.client.broker.session? e.client.session = some s ∧ (s.closed = false → e.Abreast s))
    ∧ ∀ {σ : Type} {view : σ → Client} {link : Link σ}, Serves view link → Honest view link →
      ∀ (p : Publisher) {messages : List Message}, messages.length < 2 ^ 64 →
      ∀ (number : Nat) (j : Journaled σ),
        let r := p.conduct link number messages j
        ((link.openSession j.state).answer = .ok () →
          ∃ e, Exchange.Reached p.settings.parcel e ∧ e.recorded < 2 ^ 64
            ∧ e.client = view r.2.state
            ∧ ∀ outcome, r.1 = .ok outcome →
              outcome = ⟨messages.length, e.books.acked, e.books.rejected⟩)
        ∧ (p.settings.pacing ≠ .streaming →
          (∀ left timeout, r.1 ≠ .error (.confirmationTimeout left timeout))
          ∧ ∃ session, (p.conduct link.overheard number messages
              ⟨Overheard.start j.state, j.journal⟩).2.state.sessions = [session]
            ∧ ∀ i, ((∅ : Books Message).replay ((postings messages session).take i)).inFlight.size
              ≤ p.settings.chunkSize) :=
  ⟨fun _ _ acts hfresh hfew => (hfresh.balances.run acts).abreast hfew,
    fun hserves hhonest p _ hlen number j =>
      ⟨conduct_exchanges hserves hhonest p hlen number j,
        fun hpacing => conduct_timely hserves hhonest p hpacing hlen number j⟩⟩

/-- A broker that takes everything and reports runs. -/
def pliant : Broker := { start with reporting := .cumulative }

/-- An exchange on its first session, as it begins. -/
def pliantBegun : Exchange :=
  ⟨⟨((pliant.openSession.state.listen 1 0).enableConfirms 1).state, 1⟩, ∅, none, 0⟩

theorem never_drift_apart_pliant :
    let hello : Message := ⟨1, "Hello", .empty, .empty⟩
    let settings := Publisher.standard.settings
    let acts : List Act := [.declare "hello", .record hello, .send, .record hello, .send, .pass 1 1,
      .record hello]
    let e := (pliantBegun.run settings.parcel acts).1
    (e.books.inFlight.tags = [2, 3]
        ∧ ∃ s, e.client.broker.session? e.client.session = some s ∧ s.unconfirmed = 1
          ∧ e.Abreast s)
      ∧ let j : Journaled Client := .start ⟨pliant, 0⟩
        let messages := [hello, hello]
        let r := Publisher.standard.conduct Client.link 1 messages j
        (∃ e, Exchange.Reached settings.parcel e ∧ e.client = r.2.state ∧ e.books.acked = 2)
          ∧ ∃ session, (Publisher.standard.conduct Client.link.overheard 1 messages
              ⟨Overheard.start j.state, j.journal⟩).2.state.sessions = [session]
            ∧ ∀ i, ((∅ : Books Message).replay ((postings messages session).take i)).inFlight.size
              ≤ settings.chunkSize := by
  intro hello settings acts
  have hfresh : pliantBegun.Fresh := by
    refine ⟨⟨_, 0, rfl, ?_, ?_, ?_, ?_, ?_, ?_⟩, rfl, rfl, rfl⟩ <;> rfl
  have habreast := never_drift_apart.1 settings.parcel pliantBegun acts hfresh
  have hfew : (pliantBegun.run settings.parcel acts).1.recorded < 2 ^ 64 := by decide +kernel
  have htags : (pliantBegun.run settings.parcel acts).1.books.inFlight.tags = [2, 3] := by
    decide +kernel
  have hopen : let e := (pliantBegun.run settings.parcel acts).1
      (e.client.broker.session? e.client.session).map (fun s => (s.closed, s.unconfirmed))
        = some (false, 1) := by decide +kernel
  generalize (pliantBegun.run settings.parcel acts).1 = e at habreast hfew htags hopen ⊢
  refine ⟨⟨htags, ?_⟩, ?_⟩
  · obtain ⟨s, hs, habreast⟩ := habreast hfew
    dsimp only at hopen
    rw [hs, Option.map_some] at hopen
    obtain ⟨hclosed, hcount⟩ := Prod.mk.inj (Option.some.inj hopen)
    exact ⟨s, hs, hcount, habreast hclosed⟩
  · intro j messages
    have hpacing : Publisher.standard.settings.pacing ≠ .streaming := by decide
    have hopen : (Client.link.openSession j.state).answer = .ok () := rfl
    have hlen : messages.length < 2 ^ 64 := by decide
    have hconfirmed : (Publisher.standard.conduct Client.link 1 messages j).1.toOption.map
        Outcome.confirmed = some 2 := by decide +kernel
    have hround :=
      never_drift_apart.2 Client.serves Client.honest Publisher.standard hlen 1 j
    generalize Publisher.standard.conduct Client.link 1 messages j = r at hconfirmed hround ⊢
    obtain ⟨e, hreached, -, hclient, houtcome⟩ := hround.1 hopen
    refine ⟨⟨e, hreached, hclient, ?_⟩, (hround.2 hpacing).2⟩
    obtain ⟨result, left⟩ := r
    cases result with
    | error failure => exact absurd hconfirmed (by rintro ⟨⟩)
    | ok outcome =>
      obtain rfl := houtcome outcome rfl
      exact Option.some.inj hconfirmed

end Broker

end ConfirmedDelivery
