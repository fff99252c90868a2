import ConfirmedDelivery.Proofs.Broker.Cooperation
import ConfirmedDelivery.Proofs.Broker.Outlasting

/-!
# Brokers that differ in their delay

Two brisk brokers with the same excerpt go on to have the same excerpt, whatever is called on the session
in use and however long it takes (`Matches`). So rounds cannot tell them apart (`matching_alike`).
-/

namespace ConfirmedDelivery.Broker

variable {P : Nat → Bool} {wait n : Nat} {b b' : Broker} {s : Session}

/-! ## The session in use, step by step -/

/-- Session `n` was just opened. -/
def Unused (P : Nat → Bool) (wait n : Nat) (b : Broker) : Prop :=
  ∃ s, Used P wait n b s ∧ s.confirming = false ∧ s.queue = [] ∧ n ∉ b.scheduled

/-- Messages are sent on session `n`, which is ready to pass if there were any. -/
def Busy (P : Nat → Bool) (wait n : Nat) (b : Broker) : Prop :=
  ∃ delay s, Active P wait n delay b s ∧ (s.queue = [] ∨ n ∈ b.ready) ∧ n ∉ b.scheduled

/-- Whatever was sent on session `n`, it has taken in. -/
def Emptied (P : Nat → Bool) (wait n : Nat) (b : Broker) : Prop :=
  ∃ delay s, Active P wait n delay b s ∧ s.queue = [] ∧ n ∉ b.scheduled

theorem Emptied.busy (h : Emptied P wait n b) : Busy P wait n b := by
  obtain ⟨delay, s, hs, hqueue, hfree⟩ := h
  exact ⟨delay, s, hs, .inl hqueue, hfree⟩

/-- A session that is opened on a brisk broker is new to it. -/
theorem Brisk.push (h : Brisk P wait 0 b) :
    Unused P wait (b.opened + 1) (b.push (.opened b.script)) := by
  have hnone {m : Nat} {s : Session} (hm : m ≠ b.opened + 1)
      (hs : (b.push (.opened b.script)).session? m = some s) : m ≠ 0 ∧ b.session? m = some s := by
    rw [session?_push, if_neg hm] at hs
    exact ⟨(lt_of_session? hs).1.ne', hs⟩
  have hopen : b.openSession.state = b.push (.opened b.script) := by
    rcases openSession_cases b with ⟨hdown, -⟩ | ⟨-, heq⟩
    · exact absurd (h.connected.symm.trans hdown) Bool.false_ne_true
    · rw [heq]
  refine ⟨.opened b.script, ⟨⟨⟨hopen ▸ h.own.openSession, h.housed, fun hm hseen hs =>
    h.spent (hnone hm hs).1 hseen (hnone hm hs).2⟩, ?_, h.connected, h.brief, ?_⟩,
    h.ahead _ (Nat.lt_succ_self _), ?_, rfl, ?_, Nat.zero_le _⟩, rfl, rfl, ?_⟩
  · exact h.known.mono (List.Subset.refl _) ((opened_push b _).ge.trans' (Nat.le_succ _))
  · exact fun m hm => h.ahead m (Nat.lt_of_succ_lt ((opened_push b _).symm.trans_lt hm))
  · rw [session?_push, if_pos rfl]
  · exact fun x hx => absurd hx List.not_mem_nil
  · exact fun hn => Nat.not_succ_le_self _ (h.known _ hn)

theorem Unused.listen (h : Unused P wait n b) (l : Nat) : Unused P wait n (b.listen n l) := by
  obtain ⟨s, hs, hoff, hqueue, hfree⟩ := h
  let f := fun s : Session => { s with listener := some l }
  have heq : b.listen n l = { b with sessions := (b.update n f).sessions } := by cases n <;> rfl
  have hused := hs.updated f b.deliveries b.attempts b.transmits b.ready heq
    ((effect_deed b n (.listen l)).lasts.ofItself hs.own) (by rw [heq]; exact hs.housed) hs.unclosed
    rfl hs.counted
  refine ⟨f s, hused, hoff, hqueue, ?_⟩
  rw [heq]
  exact hfree

theorem Unused.enableConfirms (h : Unused P wait n b) :
    ∃ s, b.session? n = some s ∧ s.closed = false ∧ s.confirming = false
      ∧ Emptied P wait n (b.enableConfirms n).state := by
  obtain ⟨s, hs, hoff, hqueue, hfree⟩ := h
  refine ⟨s, hs.session, hs.unclosed, hoff, ?_⟩
  have hlasts := (effect_deed b n .enableConfirms).lasts
  change Lasts b (b.enableConfirms n).state at hlasts
  rw [enableConfirms_eq hs.session hs.unclosed hoff] at hlasts ⊢
  have hused := hs.updated (Session.enabled b) b.deliveries b.attempts b.transmits (b.ready ++ [n]) rfl
    (hlasts.ofItself hs.own) hs.housed hs.unclosed rfl hs.counted
  exact ⟨b.delay, s.enabled b, ⟨hused, rfl, rfl, hs.brief⟩, hqueue, hfree⟩

theorem Busy.declare (h : Busy P wait n b) (destination : String) :
    Busy P wait n { b with
      queues := b.queues.insert destination (b.stored destination) } := by
  obtain ⟨delay, s, hs, hready, hfree⟩ := h
  refine ⟨delay, s, hs.congr ⟨hs.toQuiet.congr rfl rfl fun q hq => ?_, hs.known, hs.connected, hs.brief,
    hs.ahead⟩ (session?_congr rfl n), hready, hfree⟩
  rw [Dict.contains_insert, hq, Bool.or_true]

theorem Busy.transmit (h : Busy P wait n b) (destination : String) (properties : Properties)
    (body : ByteArray) : Busy P wait n (b.transmit n destination properties body).state := by
  obtain ⟨delay, s, hs, hready, hfree⟩ := h
  have hown := hs.own.transmit n destination properties body
  have hhoused := hs.housed.transmit (n := n) destination properties body
  rcases transmit_confirming hs.session hs.unclosed hs.confirming hfree destination properties body with
    ⟨-, heq⟩ | ⟨-, -, heq⟩ | ⟨-, -, ready, hready', heq⟩
  · rw [heq]
    exact ⟨delay, s, hs, hready, hfree⟩
  · rw [heq]
    exact ⟨delay, s, hs.congr ⟨hs.toQuiet.congr rfl rfl fun _ => id, hs.known, hs.connected, hs.brief,
      hs.ahead⟩ (session?_congr rfl n), hready, hfree⟩
  · rw [heq] at hown hhoused ⊢
    let d := b.sentAs n s.nextTag destination properties body
    have hcounted : (s.sent d).queue.length ≤ (s.sent d).unconfirmed := by
      change (s.queue ++ [_]).length ≤ s.unconfirmed + 1
      rw [List.length_append]
      exact Nat.succ_le_succ hs.counted
    have hused := hs.updated (Session.sent d) _ _ _ ready rfl hown hhoused hs.unclosed rfl hcounted
    exact ⟨delay, s.sent d, ⟨hused, hs.confirming, hs.delay_eq, hs.outlasted⟩, .inr hready', hfree⟩

theorem Used.close (h : Used P wait n b s) :
    b.close n = ⟨.ok (), [], [.sessionClosed n], b.shut n⟩ := by
  unfold Broker.close
  rw [openSession?_of_session h.session h.unclosed]

/-- A session that is closed has nothing left to report. -/
theorem Used.shut (h : Used P wait n b s) : Brisk P wait 0 (b.shut n) := by
  have hledger := ledger_shut (b := b) n
  refine ⟨⟨h.own.shut n, h.housed.shut, fun {m s'} hm hseen hs' => ?_⟩, h.known.shut n, ?_, ?_, ?_⟩
  · rw [session?_shut] at hs'
    split_ifs at hs' with hn
    · subst hn
      rw [h.session] at hs'
      obtain rfl := Option.some.inj hs'
      intro x hx
      unfold Session.contents Session.shut at hx
      rw [List.append_nil] at hx
      exact h.withheld x hx
    · exact h.spent (Ne.symm hn) hseen hs'
  · exact (congrArg Ledger.disconnected hledger).trans h.connected
  · exact (congrArg (fun l : Ledger => l.delay.waitMillis) hledger).trans_lt h.brief
  · exact fun m hm => h.ahead m (opened_of_ledger hledger ▸ hm)

/-! ## Two brokers -/

/-- Clients that use sessions of the same number in the same way, with the same view of their
brokers. -/
structure Matches {γ : Type} (view : Nat → Broker → γ) (X : Nat → Broker → Prop) (c c' : Client) :
    Prop where
  session : c.session = c'.session
  left : X c.session c.broker
  right : X c'.session c'.broker
  view : view c.session c.broker = view c'.session c'.broker

/-- How clients of two brisk brokers are alike during a round. -/
def matching (P : Nat → Bool) (wait : Nat) : Likeness Client Client where
  between c c' := Brisk P wait 0 c.broker ∧ Brisk P wait 0 c'.broker
    ∧ c.broker.excerpt P 0 = c'.broker.excerpt P 0
  opened := Matches (excerpt P) (Unused P wait)
  sending := Matches (excerpt P) (Busy P wait)
  sent := Matches (excerpt P) (Busy P wait)
  settled := Matches (excerpt P) (Emptied P wait)

section Calls

variable {c c' : Client} {α γ : Type} {view : Nat → Broker → γ}

theorem Matches.imp {X Y : Nat → Broker → Prop} (h : Matches view X c c')
    (himp : ∀ {n b}, X n b → Y n b) : Matches view Y c c' :=
  ⟨h.session, himp h.left, himp h.right, h.view⟩

theorem alikeIn_openSession (h : (matching P wait).between c c') :
    (Client.link.openSession c).AlikeIn (matching P wait).opened (matching P wait).between
      (Client.link.openSession c') := by
  obtain ⟨hleft, hright, hexcerpt⟩ := h
  have hopened : c.broker.opened = c'.broker.opened :=
    congrArg (fun e : Excerpt => e.ledger.opened) hexcerpt
  have hscript : c.broker.script = c'.broker.script :=
    congrArg (fun e : Excerpt => e.ledger.script) hexcerpt
  rw [openSession_eq hleft.connected, openSession_eq hright.connected]
  refine ⟨rfl, fun _ => rfl, fun _ _ => ⟨?_, hleft.push, hright.push, ?_⟩, fun _ h => nomatch h⟩
  · exact congrArg (· + 1) hopened
  · change (c.broker.push _).excerpt P _ = (c'.broker.push _).excerpt P _
    rw [excerpt_push, excerpt_push, hexcerpt, hscript]

/-- A call on sessions of the same number gives the same if it does so on both brokers. -/
theorem alikeIn_call {X : Nat → Broker → Prop} (op : Broker → Nat → Answer α)
    {ok fail : Client → Client → Prop} (h : Matches view X c c')
    (hop : ∀ {b b' : Broker} {n : Nat}, X n b → X n b' → view n b = view n b' →
      (op b n).answer = (op b' n).answer
        ∧ (∀ books : Books Message,
          books.handleAll (Client.confirmsOf n (op b n).events)
            = books.handleAll (Client.confirmsOf n (op b' n).events))
        ∧ (∀ a, (op b n).answer = .ok a → ok ⟨(op b n).state, n⟩ ⟨(op b' n).state, n⟩)
        ∧ ∀ fault, (op b n).answer = .error fault →
          fail ⟨(op b n).state, n⟩ ⟨(op b' n).state, n⟩) :
    (c.call op).AlikeIn ok fail (c'.call op) := by
  obtain ⟨b, n⟩ := c
  obtain ⟨b', n'⟩ := c'
  obtain rfl : n = n' := h.session
  obtain ⟨hanswer, hbooks, hok, hfail⟩ := hop h.left h.right h.view
  refine ⟨congrArg (Except.map id) hanswer, hbooks, fun a ha => ?_, fun fault hfault => ?_⟩
  · rcases heq : (op b n).answer with fault | a'
    · change (op b n).answer.map id = _ at ha
      rw [heq] at ha
      cases ha
    · exact hok a' heq
  · rcases heq : (op b n).answer with fault' | a
    · exact hfail fault' heq
    · change (op b n).answer.map id = _ at hfault
      rw [heq] at hfault
      cases hfault

theorem matches_listen (h : Matches (excerpt P) (Unused P wait) c c') :
    Matches (excerpt P) (Unused P wait) (Client.link.listen c) (Client.link.listen c') := by
  refine ⟨h.session, h.left.listen 0, h.right.listen 0, ?_⟩
  change (c.broker.listen c.session 0).excerpt P c.session
    = (c'.broker.listen c'.session 0).excerpt P c'.session
  rw [excerpt_listen, excerpt_listen, h.view]

theorem alikeIn_enableConfirms (h : Matches (excerpt P) (Unused P wait) c c') (fail : Client → Client → Prop) :
    (Client.link.enableConfirms c).AlikeIn (matching P wait).sending fail
      (Client.link.enableConfirms c') := by
  refine alikeIn_call _ h fun {b b' n} hb hb' hexcerpt => ?_
  obtain ⟨s, hs, hopen, hoff, hleft⟩ := hb.enableConfirms
  obtain ⟨s', hs', hopen', hoff', hright⟩ := hb'.enableConfirms
  rw [enableConfirms_eq hs hopen hoff] at hleft ⊢
  rw [enableConfirms_eq hs' hopen' hoff'] at hright ⊢
  refine ⟨rfl, fun _ => rfl, fun _ _ => ⟨rfl, hleft.busy, hright.busy, ?_⟩,
    fun _ hfault => nomatch hfault⟩
  have henabled := excerpt_enabled (P := P) (b := b) (n := n) (b.ready ++ [n])
  rw [hexcerpt] at henabled
  exact henabled.trans (excerpt_enabled _).symm

theorem alikeIn_declare (h : Matches (excerpt P) (Busy P wait) c c') (destination : String)
    (fail : Client → Client → Prop) :
    (Client.link.declare destination c).AlikeIn (matching P wait).sending fail
      (Client.link.declare destination c') := by
  have hdeclare {b : Broker} {n : Nat} (hb : Busy P wait n b) : b.declare n destination
      = .quiet (.ok ()) { b with queues := b.queues.insert destination (b.stored destination) } := by
    obtain ⟨delay, s, hs, -⟩ := hb
    unfold Broker.declare
    rw [hs.openSession?]
  refine alikeIn_call (fun b n => b.declare n destination) h fun {b b' n} hb hb' hexcerpt => ?_
  rw [hdeclare hb, hdeclare hb']
  refine ⟨rfl, fun _ => rfl, fun _ _ => ⟨rfl, hb.declare destination, hb'.declare destination, ?_⟩,
    fun _ hfault => nomatch hfault⟩
  have hdeclared := excerpt_declare (P := P) (b := b) (n := n) destination
  rw [hexcerpt] at hdeclared
  exact hdeclared.trans (excerpt_declare destination).symm

theorem alikeIn_transmit (h : Matches (excerpt P) (Busy P wait) c c') (destination : String)
    (properties : Properties) (body : ByteArray) :
    (Client.link.transmit destination properties body c).AlikeIn (matching P wait).sent
      (matching P wait).within (Client.link.transmit destination properties body c') := by
  have htransmit {b : Broker} {n : Nat} (hb : Busy P wait n b) :
      ((b.transmit n destination properties body).answer,
        (b.transmit n destination properties body).state.excerpt P n)
        = (b.excerpt P n).transmit n destination properties body := by
    obtain ⟨delay, s, hs, -, hfree⟩ := hb
    exact excerpt_transmit hs.session hs.unclosed hs.confirming hfree destination properties body
  refine alikeIn_call (fun b n => b.transmit n destination properties body) h
    fun {b b' n} hb hb' hexcerpt => ?_
  have heq := htransmit hb
  rw [hexcerpt, ← htransmit hb'] at heq
  have hsent : Matches (excerpt P) (Busy P wait) ⟨(b.transmit n destination properties body).state, n⟩
      ⟨(b'.transmit n destination properties body).state, n⟩ :=
    ⟨rfl, hb.transmit destination properties body, hb'.transmit destination properties body,
      congrArg Prod.snd heq⟩
  refine ⟨congrArg Prod.fst heq, fun _ => ?_, fun _ _ => hsent, fun _ _ => .inr hsent⟩
  rw [events_transmit, events_transmit]

theorem alikeIn_awaitConfirms (h : Matches (excerpt P) (Busy P wait) c c') {timeout : Span}
    (hlong : wait ≤ timeout.waitMillis) (fail : Client → Client → Prop) :
    (Client.link.awaitConfirms timeout c).AlikeIn (matching P wait).settled fail
      (Client.link.awaitConfirms timeout c') := by
  have hawait {b : Broker} {n : Nat} (hb : Busy P wait n b) :
      let r := b.awaitConfirms n timeout
      let e := b.excerpt P n
      r.answer = .ok (e.pass n).allConfirmed ∧ Emptied P wait n r.state
        ∧ r.state.excerpt P n = e.pass n
        ∧ ∀ books : Books Message, books.handleAll (Client.confirmsOf n r.events)
          = books.handleAll (e.heard n) := by
    obtain ⟨delay, s, hs, hready, hfree⟩ := hb
    obtain ⟨hanswer, hreported⟩ := hs.awaitConfirms hfree hready (hs.outlasted.trans_le hlong)
    obtain ⟨⟨⟨s', hs', hqueue⟩, hexcerpt, -⟩, hfree'⟩ := hreported ∅
    exact ⟨hanswer, ⟨delay, s', hs', hqueue, hfree'⟩, hexcerpt, fun books => (hreported books).1.2.2⟩
  refine alikeIn_call (fun b n => b.awaitConfirms n timeout) h fun {b b' n} hb hb' heq => ?_
  obtain ⟨hanswer, hleft, hexcerpt, hbooks⟩ := hawait hb
  obtain ⟨hanswer', hright, hexcerpt', hbooks'⟩ := hawait hb'
  rw [heq] at hanswer hexcerpt hbooks
  exact ⟨hanswer.trans hanswer'.symm, fun books => (hbooks books).trans (hbooks' books).symm,
    fun _ _ => ⟨rfl, hleft, hright, hexcerpt.trans hexcerpt'.symm⟩,
    fun fault hfault => nomatch hanswer.symm.trans hfault⟩

theorem alikeIn_close (h : (matching P wait).within c c') :
    (Client.link.close c).AlikeIn (matching P wait).between (matching P wait).between
      (Client.link.close c') := by
  have hused : Matches (excerpt P) (fun n b => ∃ s, Used P wait n b s) c c' := by
    rcases h with h | h
    · exact h.imp fun ⟨s, hs, _⟩ => ⟨s, hs⟩
    · exact h.imp fun ⟨_, s, hs, _⟩ => ⟨s, hs.toUsed⟩
  refine alikeIn_call _ hused fun {b b' n} ⟨s, hs⟩ ⟨s', hs'⟩ hexcerpt => ?_
  rw [hs.close, hs'.close]
  refine ⟨rfl, fun _ => rfl, fun _ _ => ⟨hs.shut, hs'.shut, ?_⟩, fun _ hfault => nomatch hfault⟩
  change (b.shut n).excerpt P 0 = (b'.shut n).excerpt P 0
  rw [excerpt_shut, excerpt_shut, hexcerpt]

theorem nextTag_matches {X : Nat → Broker → Prop} (h : Matches (excerpt P) X c c') :
    Client.link.nextTag c = Client.link.nextTag c' := by
  have htag (b : Broker) (n : Nat) :
      b.nextTag n = ((b.excerpt P n).session.map Session.nextTag).getD 0 := by
    unfold Broker.nextTag Broker.excerpt
    rw [Option.map_map]
    rfl
  change c.broker.nextTag c.session = c'.broker.nextTag c'.session
  rw [htag, htag, h.view]

/-- What comes of a wait until nothing is in flight, unless it is too short for what was sent. -/
theorem alikeIn_lull {timeout : Span} {r r' : Round Client}
    (h : Round.Alike (Matches (excerpt P) fun n b => ∃ delay s, Active P wait n delay b s ∧ n ∉ b.scheduled
      ∧ (s.queue = [] ∨ n ∈ b.ready ∧ delay.waitMillis < timeout.waitMillis)) r r')
    (hopen : r.drained = false) :
    ((Client.link.lull timeout r.link).watch Round.absorb Round.drained r).1
        = ((Client.link.lull timeout r'.link).watch Round.absorb Round.drained r').1
      ∧ Round.Alike (matching P wait).within
        ((Client.link.lull timeout r.link).watch Round.absorb Round.drained r).2
        ((Client.link.lull timeout r'.link).watch Round.absorb Round.drained r').2 := by
  have hopen' : r'.drained = false := by
    unfold Round.drained at hopen ⊢
    rwa [← h.books]
  obtain ⟨hsession, ⟨delay, s, hs, hfree, hready⟩, ⟨delay', s', hs', hfree', hready'⟩, hexcerpt⟩ :=
    h.link
  obtain ⟨b, journal, hwatch, ⟨⟨t, ht, hqueue⟩, hb, -⟩, hbfree⟩ := hs.lull hfree hopen hready
  obtain ⟨b', journal', hwatch', ⟨⟨t', ht', hqueue'⟩, hb', -⟩, hbfree'⟩ :=
    hs'.lull hfree' hopen' hready'
  rw [hexcerpt, hsession] at hb
  have hmatches : Matches (excerpt P) (Busy P wait) ⟨b, r.link.session⟩ ⟨b', r'.link.session⟩ :=
    ⟨hsession, Emptied.busy ⟨delay, t, ht, hqueue, hbfree⟩,
      Emptied.busy ⟨delay', t', ht', hqueue', hbfree'⟩, by
        rw [hsession]
        exact hb.trans hb'.symm⟩
  rw [hwatch, hwatch', hexcerpt, hsession, h.books]
  rw [hsession] at hmatches
  exact ⟨rfl, .inr hmatches, rfl, h.declared, h.sent⟩

end Calls

/-- Rounds cannot tell two brokers apart that have the same excerpt, if their waits outlast the delay of
either broker. -/
theorem matching_alike {settings : Settings}
    (hbatch : settings.pacing ≠ .streaming → wait ≤ settings.batchConfirmTimeout.waitMillis)
    (hdrain : settings.pacing = .streaming → wait ≤ settings.timeout.waitMillis) :
    Client.link.AlikeIn (matching P wait) settings Client.link where
  sent := id
  settled h := h.imp Emptied.busy
  openSession := alikeIn_openSession
  listen := matches_listen
  enableConfirms h := alikeIn_enableConfirms h _
  nextTag := nextTag_matches
  declare destination h := alikeIn_declare h destination _
  transmit destination properties body h := alikeIn_transmit h destination properties body
  awaitConfirms hpacing h := alikeIn_awaitConfirms h (hbatch hpacing) _
  lull {r r'} h hopen := by
    refine alikeIn_lull (h.imp fun hlink => ?_) hopen
    unfold Likeness.done at hlink
    split_ifs at hlink with hpacing
    · exact hlink.imp fun ⟨delay, s, hs, hqueue, hfree⟩ => ⟨delay, s, hs, hfree, .inl hqueue⟩
    · refine hlink.imp fun ⟨delay, s, hs, hready, hfree⟩ =>
        ⟨delay, s, hs, hfree, hready.imp_right fun hready => ⟨hready, ?_⟩⟩
      exact hs.outlasted.trans_le (hdrain (not_not.1 hpacing))
  close := alikeIn_close
  clock _ := rfl

end ConfirmedDelivery.Broker
