import ConfirmedDelivery.Proofs.Broker.Timely
import ConfirmedDelivery.Proofs.Broker.Waking

/-!
# What can go wrong over a broker in memory

While a round runs over a broker in memory, its session is open with its confirms on, and the
destinations it declared exist (`Serving`); so the only call that can fail is sending a message when
the limit is reached. The announced tag is free (`Going.records`) and is the one assigned. What is
left are refused sessions, waits that take too long, and the limits of the retries
(`publishAll_fails`).
-/

namespace ConfirmedDelivery.Broker

/-! ## Nothing of the settings changes -/

/-- The settings by which calls fail are those of an earlier state. -/
def AsBefore (before b : Broker) : Prop :=
  b.limit = before.limit ∧ b.disconnected = before.disconnected

theorem AsBefore.of_ledger {before b b' : Broker} (h : AsBefore before b)
    (hledger : b'.ledger = b.ledger) : AsBefore before b' :=
  ⟨(congrArg Ledger.limit hledger).trans h.1, (congrArg Ledger.disconnected hledger).trans h.2⟩

/-- So many messages were tried that one of them failed. -/
def Cut (before b : Broker) : Prop := ∃ most, before.limit = some most ∧ most < b.transmits

theorem Cut.interlude {before b b' : Broker} {heard : List Heard} (h : Cut before b)
    (hidle : Interlude b heard b') : Cut before b' := by
  unfold Cut
  rwa [hidle.transmits]

/-! ## An open session -/

/-- The session `n` is open, with its confirms on and the tag `next` to be given next, and these
destinations exist. -/
structure Serving (before : Broker) (n : Nat) (next : Tag) (declared : List String) (b : Broker) :
    Prop where
  session : ∃ s, b.session? n = some s ∧ s.closed = false ∧ s.confirming = true ∧ s.nextTag = next
  declared : ∀ d ∈ declared, b.queues.contains d = true
  asBefore : AsBefore before b

namespace Serving

variable {before b b' : Broker} {n : Nat} {next : Tag} {declared : List String}

theorem nextTag (h : Serving before n next declared b) : b.nextTag n = next := by
  obtain ⟨s, hs, -, -, hnext⟩ := h.session
  rw [Broker.nextTag, hs]
  exact hnext

theorem passFirst (h : Serving before n next declared b) (k m : Nat) :
    Serving before n next declared (b.passFirst k m).1 := by
  refine ⟨?_, fun d hd => contains_passFirst (h.declared d hd) k m,
    h.asBefore.of_ledger (ledger_passFirst b k m)⟩
  obtain ⟨s, hs, hsession⟩ := h.session
  by_cases hm : m = n
  · subst hm
    refine ⟨s.passed k, ?_, hsession⟩
    rw [passFirst_exact hs, session?_change, if_pos rfl, hs]
    rfl
  · exact ⟨s, (passFirst_other b hm k).1.trans hs, hsession⟩

theorem interlude {heard : List Heard} (hidle : Interlude b heard b') :
    Serving before n next declared b → Serving before n next declared b' := by
  induction hidle with
  | nothing => exact id
  | clock waits now ready due _ ih =>
    rintro ⟨⟨s, hs, hsession⟩, hdeclared, hbefore⟩
    exact ih ⟨⟨s, (session?_congr rfl n).trans hs, hsession⟩, hdeclared, hbefore⟩
  | pass k m _ ih => exact fun h => ih (h.passFirst k m)

theorem stable : Stable n fun b _ => Serving before n next declared b :=
  fun _ _ _ _ h hidle => h.interlude hidle

theorem declare (h : Serving before n next declared b) (destination : String) :
    (b.declare n destination).answer = .ok ()
      ∧ Serving before n next (destination :: declared) (b.declare n destination).state := by
  obtain ⟨s, hs, hopen, hsession⟩ := h.session
  unfold Broker.declare
  rw [openSession?_of_session hs hopen]
  refine ⟨rfl, ⟨s, (session?_congr rfl n).trans hs, hopen, hsession⟩, fun d hd => ?_, h.asBefore⟩
  change (b.queues.insert destination _).contains d = true
  rw [Dict.contains_insert]
  rcases List.mem_cons.1 hd with rfl | hd
  · simp
  · simp [h.declared d hd]

theorem awaitConfirms (h : Serving before n next declared b) (timeout : Span) :
    ∃ inTime, (b.awaitConfirms n timeout).answer = .ok inTime := by
  obtain ⟨s, hs, hopen, hon, -⟩ := h.session
  rw [awaitConfirms_on (openSession?_of_session hs hopen) hon]
  split_ifs
  · exact ⟨true, rfl⟩
  · exact ⟨_, rfl⟩

/-- A message is assigned the next tag, or the limit is reached. -/
theorem transmit (h : Serving before n next declared b) {destination : String}
    (hd : destination ∈ declared) (properties : Properties) (body : ByteArray) :
    let r := b.transmit n destination properties body
    match r.answer with
    | .ok tag => tag = next ∧ Serving before n (next + 1) declared r.state
    | .error fault =>
      fault = .connectionClosed "connection reset during transmit" ∧ Cut before r.state := by
  intro r
  obtain ⟨s, hs, hopen, hon, hnext⟩ := h.session
  rcases transmit_cases b n destination properties body with
    ⟨fault, transmits, heq⟩ | ⟨s', transmits, hs', -, ⟨-, ready, heq⟩ | ⟨hoff, -⟩⟩
  · have hfault : r.answer = .error fault := congrArg Reply.answer heq
    rw [hfault]
    unfold r Broker.transmit at hfault ⊢
    rw [openSession?_of_session hs hopen] at hfault ⊢
    simp only [h.declared destination hd, Bool.not_true, Bool.false_eq_true, ↓reduceIte] at hfault ⊢
    split_ifs at hfault ⊢ with hlimit
    obtain ⟨most, hmost, hle⟩ := (Option.any_eq_true _ _).1 hlimit
    refine ⟨(Except.error.inj hfault).symm, most, h.asBefore.1.symm.trans hmost, ?_⟩
    exact Nat.lt_succ_of_le (of_decide_eq_true hle)
  · obtain rfl := Option.some.inj (hs.symm.trans hs')
    have hsession : r.state.session? n
        = some (s.sent (b.sentAs n s.nextTag destination properties body)) := by
      rw [show r = _ from heq]
      exact (session?_updated rfl n).trans (by rw [if_pos rfl, hs, Option.map_some])
    rw [show r = _ from heq] at hsession ⊢
    exact ⟨hnext, ⟨_, hsession, hopen, hon, congrArg (· + 1) hnext⟩, h.declared, h.asBefore⟩
  · obtain rfl := Option.some.inj (hs.symm.trans hs')
    simp [hon] at hoff

end Serving

/-! ## The failures of a round -/

/-- The failures that a publisher can come to over a broker in memory, between these two states. -/
def Expected (settings : Settings) (before after : Broker) : Failure → Prop
  | .link (.connectionClosed reason) =>
    (reason = "broker disconnected" ∧ before.disconnected = true)
      ∨ (reason = "connection reset during transmit" ∧ Cut before after)
  | .batchConfirmTimeout _ _ => settings.pacing ≠ .streaming
  | .confirmationTimeout _ _ => settings.pacing = .streaming
  | .retriesExhausted _ _ => settings.retry.maxRounds.isSome
  | .deadlineExceeded _ _ => settings.retry.deadlineSecs.isSome
  | _ => False

theorem Expected.later {settings : Settings} {before b b' : Broker} {e : Failure}
    (h : Expected settings before b e) (htransmits : b'.transmits = b.transmits) :
    Expected settings before b' e := by
  unfold Expected Cut at h ⊢
  split at h <;> simp_all

variable {σ : Type} {view : σ → Client} {link : Link σ}

/-- A link whose waits fail only as those of the broker do. -/
def Frank (view : σ → Client) (link : Link σ) : Prop :=
  ∀ timeout s fault, (link.awaitConfirms timeout s).answer = .error fault →
    ∃ b heard, Interlude (view s).broker heard b
      ∧ (b.awaitConfirms (view s).session timeout).answer = .error fault

theorem Client.frank : Frank id Client.link := fun timeout c _ h =>
  ⟨c.broker, [], .nothing _, (answer_call c fun b n => b.awaitConfirms n timeout).symm.trans h⟩

section Round

variable {settings : Settings} {before : Broker} {n k recorded : Nat} {next : Tag}
  {declared : List String}

/-- The announced tag is free. -/
theorem Going.records {parcel : Message → Parcel} {b : Broker} {books : Books Message}
    (h : Going parcel n k none recorded b books) (hfew : recorded + 1 < 2 ^ 64) (m : Message) :
    books.add? (b.nextTag n) m ≠ none := by
  obtain ⟨s, lost, hb⟩ := h.reached.balances h.few
  obtain ⟨books', hadd, -⟩ := hb.record rfl hfew m
  have hnext : b.nextTag n = s.nextTag := hb.nextTag_eq
  rw [hnext, hadd]
  exact Option.some_ne_none _

theorem Untouched.serving {l : Nat} {b : Broker} {s : Session} (h : Untouched n (some l) b s)
    (hbefore : AsBefore before b) :
    (b.enableConfirms n).answer = .ok () ∧ Serving before n 1 [] (b.enableConfirms n).state := by
  rw [enableConfirms_eq h.session h.unclosed h.confirming]
  refine ⟨rfl, ⟨s.enabled b, (session?_updated rfl n).trans ?_, h.unclosed, rfl, rfl⟩, by simp,
    hbefore⟩
  rw [if_pos rfl, h.session, Option.map_some]

theorem Serving.waits {s s' : σ} {events : List Confirm}
    (h : Serving before n next declared (view s).broker) (hwaits : Waits view s events s') :
    Serving before n next declared (view s').broker := by
  obtain ⟨heard, hidle, -, -⟩ := hwaits
  exact h.interlude hidle

theorem Serving.lull : ∀ (lull : Lull Confirm σ) {s : σ} {b : Books Message},
    Serving before n next declared (view s).broker → Idles view s lull →
      lull.Keeps (fun s _ => Serving before n next declared (view s).broker) (fun _ _ => True) b
  | .timeUp _ _, _, _, _, _ => trivial
  | .stir _ _ next, _, _, h, ⟨hwaits, hnext⟩ =>
    ⟨h.waits hwaits, fun _ => Serving.lull next (h.waits hwaits) hnext⟩

/-- The round is an exchange on its session. -/
def Exchanging (view : σ → Client) (settings : Settings) (n k : Nat) (done : List Message)
    (_ : List String) (s : σ) (b : Books Message) : Prop :=
  (view s).session = n ∧ Going settings.parcel n k none done.length (view s).broker b

/-- A round that goes on has its session open, and if it fails that was to be expected. -/
theorem paced_serving (hserves : Serves view link) (hhonest : Honest view link)
    (hfrank : Frank view link) {messages : List Message} (hlen : messages.length < 2 ^ 64) {s₀ : σ}
    (hn : (view s₀).session = n) (hnew : ∃ s, Untouched n none (view s₀).broker s)
    (hbefore : AsBefore before (view s₀).broker) :
    Round.Paced link settings messages s₀
      (fun k done declared s b => Exchanging view settings n k done declared s b
        ∧ ∃ next, Serving before n next declared (view s).broker)
      (fun e _ s _ => Expected settings before (view s).broker e) := by
  have hpaced : Round.Paced link settings messages s₀ (Exchanging view settings n)
      (fun e _ => Halted view settings n e) := paced_going hserves hhonest hlen hn hnew
  constructor
  case enable =>
    obtain ⟨l, hlisten⟩ := hserves.listen s₀
    rw [hn] at hlisten
    obtain ⟨s, hnew⟩ := hnew
    have hends := hpaced.enable.and <| ends_of_calls_fault (n := n)
      (hserves.enableConfirms (link.listen s₀)) (by rw [hlisten])
      (P := fun b _ => (∃ s, Untouched n (some l) b s) ∧ AsBefore before b)
      (Q := fun _ b _ => Serving before n 1 [] b) (F := fun _ _ _ => False)
      (fun _ _ _ _ h hidle => by
        obtain ⟨⟨s, h⟩, hb⟩ := h
        exact ⟨h.interlude hidle, hb.of_ledger hidle.ledger⟩)
      (fun _ => Serving.stable) (fun _ _ _ _ _ h _ => h.elim)
      ⟨⟨_, by rw [hlisten]; exact hnew.listen l⟩, by
        rw [hlisten, Broker.listen, update_eq]; exact hbefore⟩
      (fun b _ h => by
        obtain ⟨⟨s, h⟩, hb⟩ := h
        obtain ⟨hanswer, hserving⟩ := h.serving hb
        rw [hanswer]
        exact hserving)
    exact hends.imp (fun _ _ _ h => ⟨h.1, _, h.2.2⟩) fun _ _ _ h => h.2.2.elim
  case declare =>
    rintro k done declared s b destination ⟨h, next, hserving⟩ hfree
    have hends := (hpaced.declare destination h hfree).and <| ends_of_calls_fault
      (hserves.declare destination s) h.1
      (P := fun b _ => Serving before n next declared b)
      (Q := fun _ b _ => Serving before n next (destination :: declared) b)
      (F := fun _ _ _ => False)
      Serving.stable (fun _ => Serving.stable) (fun _ _ _ _ _ h _ => h.elim) hserving
      (fun b _ h => by
        obtain ⟨hanswer, hserving⟩ := h.declare destination
        rw [hanswer]
        exact hserving)
    exact hends.imp (fun _ _ _ h => ⟨h.1, _, h.2.2⟩) fun _ _ _ h => h.2.2.elim
  case duplicate =>
    rintro k done declared s b m ⟨h, -⟩ hdone hadd
    have hfew : done.length + 1 < 2 ^ 64 := by
      have := hdone.length_le
      rw [List.length_append, List.length_singleton] at this
      omega
    rw [hserves.nextTag, h.1] at hadd
    exact absurd hadd (h.2.records hfew m)
  case transmit =>
    rintro k done declared s b b' m ⟨h, next, hserving⟩ hdone hk hd hadd
    have hnext : link.nextTag s = next := by
      rw [hserves.nextTag, h.1]
      exact hserving.nextTag
    have hends := (hpaced.transmit h hdone hk hd hadd).and <| ends_of_calls_fault
      (hserves.transmit m.destination
        (m.properties settings.contentType settings.persistent) m.body s) h.1
      (P := fun b _ => Serving before n next declared b)
      (Q := fun tag b _ => tag = next ∧ Serving before n (next + 1) declared b)
      (F := fun fault b _ => fault = .connectionClosed "connection reset during transmit"
        ∧ Cut before b)
      Serving.stable (fun _ _ _ _ _ h hidle => ⟨h.1, h.2.interlude hidle⟩)
      (fun _ _ _ _ _ h hidle => ⟨h.1, h.2.interlude hidle⟩) hserving (fun b _ h => by
        have hsend := h.transmit hd (m.properties settings.contentType settings.persistent) m.body
        dsimp only at hsend
        cases hanswer : (b.transmit n m.destination
            (m.properties settings.contentType settings.persistent) m.body).answer with
        | ok tag | error fault =>
          rw [hanswer] at hsend
          exact hsend)
    refine hends.imp (fun tag s' b hends => ?_) fun fault s' b hends => ?_
    · obtain ⟨hgoing, -, htag, hserving⟩ := hends
      rw [if_pos (htag.trans hnext.symm)] at hgoing ⊢
      exact ⟨hgoing, _, hserving⟩
    · obtain ⟨-, -, rfl, hcut⟩ := hends
      exact .inr ⟨rfl, hcut⟩
  case await =>
    rintro k done declared s b i ⟨h, next, hserving⟩ hpacing hbatch
    have hends := hpaced.await i h hpacing hbatch
    have hlater := hserving.waits (hserves.awaitConfirms settings.batchConfirmTimeout s)
    unfold Reply.Ends at hends ⊢
    split at hends
    · dsimp only at hends ⊢
      split_ifs at hends ⊢
      · exact ⟨hends, next, hlater⟩
      · exact hpacing
    · rename_i fault hfault
      obtain ⟨b', heard, hidle, hanswer⟩ := hfrank _ _ _ hfault
      obtain ⟨inTime, hok⟩ := (hserving.interlude hidle).awaitConfirms settings.batchConfirmTimeout
      rw [h.1, hok] at hanswer
      simp at hanswer
  case lull =>
    rintro k declared s b ⟨h, next, hserving⟩ hk hdrained
    have hpacing : settings.pacing = .streaming := by
      by_contra hpacing
      have hgoing := h.2
      rw [hk hpacing] at hgoing
      rw [hgoing.drained] at hdrained
      simp at hdrained
    have hkeeps := (hpaced.lull h hk hdrained).and
      (hserving.lull _ (hserves.lull settings.timeout s))
    exact hkeeps.imp (fun _ _ h hdrained => ⟨h.1 hdrained, next, h.2⟩) fun _ _ _ => hpacing

end Round

/-! ## The failures of a call -/

section Call

variable (p : Publisher) {before : Broker}

theorem transmits_close (b : Broker) (n : Nat) : (b.close n).state.transmits = b.transmits := by
  unfold Broker.close
  split
  · rfl
  · obtain ⟨closed, ready, due, heq⟩ := shut_eq b n
    rw [heq]

theorem ledger_close (b : Broker) (n : Nat) : (b.close n).state.ledger = b.ledger := by
  unfold Broker.close
  split
  · rfl
  · exact ledger_shut n

theorem closed_as_before (hserves : Serves view link) (s : σ) :
    (view (link.close s).state).broker.transmits = (view s).broker.transmits
      ∧ (view (link.close s).state).broker.ledger = (view s).broker.ledger := by
  obtain ⟨b, heard, heard', hbefore, -, hafter, -, -⟩ := hserves.close s
  rw [hafter.transmits, hafter.ledger, transmits_close, ledger_close, hbefore.transmits,
    hbefore.ledger]
  exact ⟨rfl, rfl⟩

/-- What happens as a session is opened: it fails only at a broker that refuses sessions. -/
theorem opened_as_before (hserves : Serves view link) {s : σ} (h : AsBefore before (view s).broker) :
    AsBefore before (view (link.openSession s).state).broker
      ∧ ∀ fault, (link.openSession s).answer = .error fault →
        fault = .connectionClosed "broker disconnected" ∧ before.disconnected = true := by
  obtain ⟨b, heard, heard', hidle, hanswer, hafter, -⟩ := hserves.openSession s
  have hb := h.of_ledger hidle.ledger
  rcases openSession_cases b with ⟨hdown, heq⟩ | ⟨-, heq⟩
  · rw [heq] at hanswer hafter
    refine ⟨hb.of_ledger hafter.ledger, fun fault hfault => ?_⟩
    rw [hanswer] at hfault
    exact ⟨(Except.error.inj hfault).symm, hb.2.symm.trans hdown⟩
  · rw [heq] at hanswer hafter
    refine ⟨AsBefore.of_ledger (b := b.push (.opened b.script)) hb hafter.ledger,
      fun fault hfault => ?_⟩
    rw [hanswer] at hfault
    exact absurd hfault (by rintro ⟨⟩)

/-- Between two rounds: not too many messages are left, and the settings are those from before. -/
def Left (view : σ → Client) (before : Broker) (_ : Report) (pending : List Message) (s : σ) :
    Prop :=
  pending.length < 2 ^ 64 ∧ AsBefore before (view s).broker

/-- A round leaves the settings of the broker as they were and no more messages than it began with,
and fails only as is to be expected. -/
theorem conduct_fails (hserves : Serves view link) (hhonest : Honest view link)
    (hfrank : Frank view link) (report : Report) (pending : List Message) (j : Journaled σ)
    (h : Left view before report pending j.state) :
    Retry.EndsRound (Left view before) (fun e s => Expected p.settings before (view s).broker e)
      report (p.conduct link (report.rounds + 1) pending j).1
      (p.conduct link (report.rounds + 1) pending j).2.state := by
  obtain ⟨hlen, hbefore⟩ := h
  obtain ⟨hopened, hrefused⟩ := opened_as_before hserves hbefore
  have hends := Round.conduct_concludes_paced j (report.rounds + 1) p.chunkSize_pos fun hopen =>
    paced_serving hserves hhonest hfrank hlen rfl
      (untouched_of_opened hserves hopen) hopened
  change Round.Concludes _ _ _ _ _ (p.conduct link (report.rounds + 1) pending j).1
    (p.conduct link (report.rounds + 1) pending j).2.state at hends
  rcases hresult : (p.conduct link (report.rounds + 1) pending j).1 with e | outcome
  · rw [hresult] at hends
    rcases hends with ⟨fault, hfault, rfl, -⟩ | ⟨done, s, b, -, hexpected, -, hstate⟩
    · obtain ⟨rfl, hdown⟩ := hrefused fault hfault
      exact .inl ⟨rfl, hdown⟩
    · rw [hstate]
      exact hexpected.later (closed_as_before hserves s).1
  · obtain ⟨-, haccounts⟩ := p.conduct_accounts hresult
    rw [hresult] at hends
    obtain ⟨declared, s, b, ⟨k, -, -, next, hserving⟩, -, -, hstate, -⟩ := hends
    rw [hstate]
    exact ⟨by omega, hserving.asBefore.of_ledger (closed_as_before hserves s).2⟩

/-- Over a broker in memory, whatever state it is in and whenever its sessions pass, a call fails
only because the broker refuses sessions or its limit was reached, because a wait took too long (for
a batch, unless the publisher is streaming, and for the rest, if it is), or because of a limit on
the retries. -/
theorem publishAll_fails (hserves : Serves view link) (hhonest : Honest view link)
    (hfrank : Frank view link) (messages : List Message) (hlen : messages.length < 2 ^ 64)
    (j : Journaled σ) (e : Failure) (he : (p.publishAll link messages j).1 = some (.error e)) :
    Expected p.settings (view j.state).broker
      (view (p.publishAll link messages j).2.state).broker e := by
  refine Retry.run_fails
    (fun report pending j' _ => conduct_fails p hserves hhonest hfrank report pending j')
    (fun time retries e event _ hrefusal => ?_) ⟨hlen, rfl, rfl⟩ he
  obtain ⟨rfl, hlimit⟩ | ⟨rfl, hlimit⟩ := Retry.refusal?_eq_some hrefusal
  · exact hlimit
  · exact hlimit

/-- The fault of the link with which a call came back. -/
def linkFault? : Option (Except Failure Report) → Option LinkFault
  | some (.error (.link fault)) => some fault
  | _ => none

theorem eq_of_linkFault? {result : Option (Except Failure Report)} {fault : LinkFault}
    (h : linkFault? result = some fault) : result = some (.error (.link fault)) := by
  unfold linkFault? at h
  split at h
  · rw [Option.some.inj h]
  · simp at h

/-- A broker that takes one message more. -/
def brief : Broker := { start with limit := some 1 }

theorem publishAll_fails_brief :
    let messages : List Message := [⟨1, "Hello", .empty, .empty⟩, ⟨2, "GoodBye", .empty, .empty⟩]
    let r := Publisher.standard.publishAll Client.link messages (.start ⟨brief, 0⟩)
    r.1 = some (.error (.link (.connectionClosed "connection reset during transmit")))
      ∧ Cut brief r.2.state.broker := by
  intro messages
  have hfailed : linkFault? (Publisher.standard.publishAll Client.link messages
      (.start ⟨brief, 0⟩)).1 = some (.connectionClosed "connection reset during transmit") := by
    decide +kernel
  have hfails := publishAll_fails Publisher.standard Client.serves Client.honest Client.frank
    messages (by decide) (.start ⟨brief, 0⟩)
  generalize Publisher.standard.publishAll Client.link messages (.start ⟨brief, 0⟩) = r
    at hfailed hfails ⊢
  have hfailed := eq_of_linkFault? hfailed
  refine ⟨hfailed, ?_⟩
  obtain ⟨hreason, -⟩ | ⟨-, hcut⟩ := hfails _ hfailed
  · exact absurd hreason (by decide)
  · exact hcut

end Call

end ConfirmedDelivery.Broker
