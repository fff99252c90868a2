import ConfirmedDelivery.Proofs.Broker.Matching
import ConfirmedDelivery.Proofs.Broker.Nearing

/-!
# Brokers on which all have the same delay

On an even broker whoever is to pass has the delay of the broker, which is over before somebody gives up
waiting (`Even`). Two such brokers that are the same without their clocks go on to be so, whatever is
called on the session in use, although their delays may differ: each wait lets all pass who are to
(`Trailing.awaitConfirms`). So rounds cannot tell them apart (`levelling_alike`).
-/

namespace ConfirmedDelivery.Broker

variable {wait n m : Nat} {b b' : Broker}

/-- A broker that takes new sessions; whoever is to pass has its delay, which is over before somebody
gives up who waits for `wait` milliseconds. -/
structure Even (wait : Nat) (b : Broker) : Prop where
  connected : b.disconnected = false
  brief : b.delay.waitMillis < wait
  tidy : Tidy b
  answers : Answerable (· = b.delay) b

/-- Session `n` was just opened. -/
structure Fresh (wait n : Nat) (b : Broker) : Prop extends Even wait b where
  session : ∃ s, b.session? n = some s ∧ s.closed = false ∧ s.confirming = false

/-- Messages are sent on session `n`, which has its turn after all others. -/
structure Trailing (wait n : Nat) (b : Broker) : Prop extends Even wait b where
  live : b.Live n b.delay
  last : n ∉ b.coming.dropLast

section Even

/-- A broker is even whose sessions that answer all have its delay. -/
theorem even_of_reachable (h : Reachable Paused b) (hconnected : b.disconnected = false)
    (hbrief : b.delay.waitMillis < wait)
    (hsame : ∀ s ∈ b.sessions, s.closed = false → s.confirming = true → s.delay = b.delay) :
    Even wait b where
  connected := hconnected
  brief := hbrief
  tidy := tidy_of_reachable (fun _ _ hpaused => hpaused.interlude) h
  answers := (punctual_of_reachable h).imp fun ⟨s, hs, hopen, hon, hdelay⟩ =>
    hdelay.symm.trans (hsame s (mem_sessions hs) hopen hon)

/-- It stays so without any delay. -/
theorem Even.undelayed (h : Even wait b) : Even wait b.undelayed where
  connected := h.connected
  brief := waitMillis_zero.trans_lt (Nat.zero_lt_of_lt h.brief)
  tidy m s' hs' := by
    obtain ⟨s, hs, rfl⟩ := Option.map_eq_some_iff.1 ((session?_bare b m).symm.trans hs')
    exact ⟨(h.tidy m s hs).withheld, (h.tidy m s hs).empty⟩
  answers := by
    refine ⟨fun m hm => ?_, fun hm => absurd hm List.not_mem_nil⟩
    obtain ⟨delay, -, s, hs, hopen, hon, -⟩ := h.answers.live hm
    exact ⟨.zero, rfl, s.timeless, (session?_bare b m).trans (congrArg _ hs), hopen, hon, rfl⟩

end Even

section Calls

theorem Even.updated {f : Session → Session} (h : Even wait b)
    (hsessions : b'.sessions = (b.update n f).sessions) (hconnected : b'.disconnected = b.disconnected)
    (hdelay : b'.delay = b.delay) (hf : ∀ s, b.session? n = some s → s.Tidy → (f s).Tidy)
    (hanswers : Answerable (· = b.delay) b') : Even wait b' :=
  ⟨hconnected.trans h.connected, hdelay ▸ h.brief, h.tidy.update hsessions hf, hdelay ▸ hanswers⟩

/-- A session that is opened on an even broker is new to it. -/
theorem Even.push (h : Even wait b) : Fresh wait (b.opened + 1) (b.push (.opened b.script)) where
  connected := h.connected
  brief := h.brief
  tidy m s hs := by
    rw [session?_push] at hs
    split_ifs at hs
    · obtain rfl := Option.some.inj hs
      exact ⟨fun x hx => absurd hx List.not_mem_nil, fun _ => rfl⟩
    · exact h.tidy m s hs
  answers := h.answers.push _
  session := by
    rw [session?_push, if_pos rfl]
    exact ⟨_, rfl, rfl, rfl⟩

theorem Fresh.listen (h : Fresh wait n b) (l : Nat) : Fresh wait n (b.listen n l) := by
  obtain ⟨heven, s, hs, hopen, hoff⟩ := h
  have hdelay : (b.listen n l).delay = b.delay := by cases n <;> rfl
  refine ⟨heven.updated (n := n) (f := fun s => { s with listener := some l }) rfl
    (by cases n <;> rfl) hdelay (fun _ _ ht => ⟨ht.withheld, ht.empty⟩) (heven.answers.listen l), ?_⟩
  refine ⟨{ s with listener := some l }, ?_, hopen, hoff⟩
  unfold Broker.listen
  rw [session?_update, if_pos rfl, hs]
  rfl

/-- A session that has its confirms off has no turn. -/
theorem Fresh.not_coming (h : Fresh wait n b) : n ∉ b.coming := fun hn => by
  obtain ⟨s, hs, -, hoff⟩ := h.session
  obtain ⟨_, -, s', hs', -, hon, -⟩ := h.answers.live hn
  obtain rfl := Option.some.inj (hs.symm.trans hs')
  exact Bool.false_ne_true (hoff.symm.trans hon)

/-- Once woken a session has its turn after all others. -/
theorem last_woken (hlast : n ∉ b.coming.dropLast)
    (hready : b'.ready = b.ready ∨ b'.ready = b.woken n) (hdue : b'.due = b.due) :
    n ∉ b'.coming.dropLast := by
  have hcoming : b'.coming = b.coming ∨ n ∉ b.coming ∧ b'.coming = b.coming ++ [n] := by
    unfold woken at hready
    unfold coming scheduled at hready ⊢
    rw [hdue]
    rcases hready with hready | hready
    · exact .inl (congrArg _ hready)
    · split_ifs at hready with hn
      · exact .inl (congrArg _ hready)
      · exact .inr ⟨hn, (congrArg _ hready).trans (List.append_assoc ..).symm⟩
  rcases hcoming with heq | ⟨hn, heq⟩
  · rwa [heq]
  · rwa [heq, List.dropLast_concat]

theorem Fresh.enableConfirms (h : Fresh wait n b) :
    (b.enableConfirms n).answer = .ok () ∧ Trailing wait n (b.enableConfirms n).state := by
  have hnone := h.not_coming
  have hanswers := h.answers.enableConfirms (n := n) rfl
  obtain ⟨heven, s, hs, hopen, hoff⟩ := h
  rw [enableConfirms_eq hs hopen hoff] at hanswers ⊢
  let b' : Broker := { b with
    sessions := (b.update n (Session.enabled b)).sessions, ready := b.ready ++ [n] }
  have hsessions : b'.sessions = (b.update n (Session.enabled b)).sessions := rfl
  have hlive : b'.Live n b.delay := by
    refine ⟨s.enabled b, ?_, hopen, rfl, rfl⟩
    rw [session?_updated hsessions, if_pos rfl, hs]
    rfl
  have hready : b'.ready = b.woken n := (if_neg hnone).symm
  refine ⟨rfl, heven.updated (f := Session.enabled b) hsessions rfl rfl
    (fun _ _ ht => ⟨ht.withheld, ht.empty⟩) hanswers, hlive, ?_⟩
  exact last_woken (fun hn => hnone ((List.dropLast_sublist _).subset hn)) (.inr hready) rfl

theorem Trailing.openSession? (h : Trailing wait n b) :
    ∃ s, b.openSession? n = .ok s ∧ s.confirming = true :=
  let ⟨s, hs, hopen, hon, _⟩ := h.live
  ⟨s, openSession?_of_session hs hopen, hon⟩

theorem Trailing.declare (h : Trailing wait n b) (destination : String) :
    (b.declare n destination).answer = .ok () ∧ Trailing wait n (b.declare n destination).state := by
  obtain ⟨s, hs, -⟩ := h.openSession?
  have hanswers := h.answers.declare (n := n) destination
  unfold Broker.declare at hanswers ⊢
  rw [hs] at hanswers ⊢
  exact ⟨rfl, ⟨h.connected, h.brief, h.tidy.congr rfl, hanswers⟩, h.live.congr rfl, h.last⟩

theorem Trailing.transmit (h : Trailing wait n b) (destination : String) (properties : Properties)
    (body : ByteArray) :
    let r := b.transmit n destination properties body
    Trailing wait n r.state ∧ ∀ tag, r.answer = .ok tag → r.state.allConfirmed n = false := by
  have htidy := h.tidy.transmit (n := n) destination properties body
  have hready := ready_transmit b n destination properties body
  have hanswers := h.answers.transmit (n := n) (fun delay hlive => by
    obtain ⟨s, hs, -, -, rfl⟩ := hlive
    obtain ⟨s', hs', -, -, hdelay⟩ := h.live
    obtain rfl := Option.some.inj (hs.symm.trans hs')
    exact hdelay) destination properties body
  rcases transmit_cases b n destination properties body with
    ⟨fault, transmits, heq⟩ | ⟨s, transmits, hs, -, ⟨-, ready, heq⟩ | ⟨hoff, -⟩⟩
  · rw [heq] at htidy hanswers ⊢
    exact ⟨⟨⟨h.connected, h.brief, htidy, hanswers⟩, h.live.congr rfl, h.last⟩,
      fun _ hanswer => nomatch hanswer⟩
  · rw [heq] at htidy hready hanswers ⊢
    let d := b.sentAs n s.nextTag destination properties body
    have hopen {b' : Broker} (hsessions : b'.sessions = (b.update n (Session.sent d)).sessions) :
        b'.allConfirmed n = false := by
      unfold allConfirmed
      rw [session?_updated hsessions, if_pos rfl, hs]
      exact beq_eq_false_iff_ne.2 (Nat.succ_ne_zero s.unconfirmed)
    refine ⟨⟨⟨h.connected, h.brief, htidy, hanswers⟩, ?_, last_woken h.last hready rfl⟩,
      fun _ _ => hopen rfl⟩
    exact h.live.updated (n := n) (f := Session.sent d) rfl fun _ _ _ => id
  · obtain ⟨s', hs', -, hon, -⟩ := h.live
    obtain rfl := Option.some.inj (hs.symm.trans hs')
    exact absurd (hoff.symm.trans hon) Bool.false_ne_true

theorem Even.shut (h : Even wait b) : Even wait (b.shut n) := by
  have hledger := ledger_shut (b := b) n
  have hdelay : (b.shut n).delay = b.delay := congrArg Ledger.delay hledger
  exact h.updated (n := n) (f := Session.shut) rfl (congrArg Ledger.disconnected hledger) hdelay
    (fun _ _ ht => ⟨ht.withheld, fun _ => rfl⟩) h.answers.shut

theorem Even.close (h : Even wait b) : Even wait (b.close n).state := by
  unfold Broker.close
  split
  · exact h
  · exact h.shut

end Calls

/-! ## Waits -/

section Waits

variable {books books' : Books Message} {timeout : Span}

theorem timeless_of_idle (h : b.coming = []) : b.timeless = b.bare := by
  unfold timeless
  rw [h]
  rfl

theorem outcome_congr (h : b.timeless = b'.timeless) : b.outcome = b'.outcome :=
  congrArg (fun t : Broker => passAll t.ready { t with ready := [] }) h

/-- A session in use stays so, if nobody is to pass when the wait is over. -/
theorem Trailing.arrived (h : Trailing wait n b) (harrived : Arrived n b books b' books') :
    Trailing wait n b' := by
  obtain ⟨heard, hidle⟩ := harrived.since
  have hledger := hidle.ledger
  have hdelay : b'.delay = b.delay := congrArg Ledger.delay hledger
  refine ⟨⟨(congrArg Ledger.disconnected hledger).trans h.connected, hdelay ▸ h.brief,
    h.tidy.interlude hidle, answerable_of_idle harrived.idle⟩, hdelay ▸ h.live.interlude hidle, ?_⟩
  rw [harrived.idle]
  exact List.not_mem_nil

theorem Arrived.timeless (h : Arrived n b books b' books') : b'.timeless = b.outcome.1 :=
  (timeless_of_idle h.idle).trans h.broker

/-- Whoever waits for confirms and outlasts the delay waits until all have passed. -/
theorem Trailing.awaitConfirms (h : Trailing wait n b) (hopen : b.allConfirmed n = false)
    (hlong : wait ≤ timeout.waitMillis) :
    let waiting : Broker := { b with waits := b.waits + 1 }
    let r := b.awaitConfirms n timeout
    r.answer = .ok (waiting.outcome.1.allConfirmed n)
      ∧ (Trailing wait n r.state ∧ r.state.coming = [])
      ∧ r.state.timeless = waiting.outcome.1
      ∧ ∀ books : Books Message, books.handleAll (Client.confirmsOf n r.events)
        = books.handleAll (Client.confirmsOf n waiting.outcome.2) := by
  intro waiting
  obtain ⟨s, hs, hon⟩ := h.openSession?
  have hwaiting : Trailing wait n waiting :=
    ⟨⟨h.connected, h.brief, h.tidy.congr rfl, h.answers.congr rfl rfl rfl rfl⟩, h.live.congr rfl, h.last⟩
  have hlate : waiting.allConfirmed n = false :=
    (allConfirmed_congr (session?_congr rfl n)).trans hopen
  have hsettles (books : Books Message) : Settles n (Waiting n waiting books)
      (Arrived n waiting books) books (waiting.lull timeout) :=
    settles_lull hwaiting.tidy hwaiting.answers hwaiting.last (hwaiting.brief.trans_le hlong)
  have hwatch (books : Books Message) := (hsettles books).watch
    (fun hb => (allConfirmed_congr hb.1).trans hlate)
    (fun hb => (allConfirmed_bare _ n).symm.trans (congrArg (Broker.allConfirmed · n) hb.broker))
    [] waiting
  rw [awaitConfirms_on hs hon]
  change (if waiting.allConfirmed n then _ else _ : Answer Bool).answer = _ ∧ _
  rw [hlate, if_neg Bool.false_ne_true]
  obtain ⟨heard, b', hend, hb'⟩ := hwatch ∅
  refine ⟨?_, ?_, ?_, fun books => ?_⟩
  · rw [hend]
  · rw [hend]
    exact ⟨hwaiting.arrived hb', hb'.idle⟩
  · rw [hend]
    exact hb'.timeless
  · obtain ⟨heard, b', hend, hb'⟩ := hwatch books
    rw [hend]
    exact hb'.heard

/-- So does a wait until nothing is in flight; it may be of any length if nobody is to pass. -/
theorem Trailing.drain {r : Round Client} (h : Trailing wait r.link.session r.link.broker)
    (hopen : r.drained = false)
    (hlong : r.link.broker.coming = [] ∨ wait ≤ timeout.waitMillis) :
    let books := r.books.handleAll (Client.confirmsOf r.link.session r.link.broker.outcome.2)
    ∃ b' journal, (Client.link.lull timeout r.link).watch Round.absorb Round.drained r
        = (books.inFlight.drained, ⟨⟨b', r.link.session⟩, journal, books, r.declared, r.sent⟩)
      ∧ Arrived r.link.session r.link.broker r.books b' books := by
  refine watch_drained hopen (fun hb => hb.heard) ?_
  rcases hlong with hidle | hlong
  · refine ((rests_lull hidle timeout).keeps fun hb => ?_).imp
      (fun _ _ ⟨hsession, hb⟩ => ⟨hsession, .inr hb.1⟩)
      fun _ _ ⟨hsession, hb, hlate⟩ => ⟨hsession, hb.1, hlate⟩
    rw [hb.2]
    exact hopen
  · exact (settles_lull h.tidy h.answers h.last (h.brief.trans_le hlong)).keeps.imp
      (fun _ _ ⟨hsession, hb⟩ => ⟨hsession, hb.imp_left And.right⟩) fun _ _ hb => hb

end Waits

/-! ## Two brokers -/

/-- How clients of two even brokers are alike during a round. -/
def levelling (wait : Nat) : Likeness Client Client where
  between c c' := Even wait c.broker ∧ Even wait c'.broker ∧ c.broker.timeless = c'.broker.timeless
  opened := Matches (fun _ => timeless) (Fresh wait)
  sending := Matches (fun _ => timeless) (Trailing wait)
  sent := Matches (fun _ => timeless) fun n b => Trailing wait n b ∧ b.allConfirmed n = false
  settled := Matches (fun _ => timeless) fun n b => Trailing wait n b ∧ b.coming = []

section Alike

variable {c c' : Client} {α : Type}

/-- A call that does to a broker without its clock what it does to the broker does the same to both. -/
theorem alikeIn_timeless {X Y Z : Nat → Broker → Prop} (op : Broker → Nat → Answer α)
    {ok fail : Client → Client → Prop} (h : Matches (fun _ => timeless) X c c')
    (hop : ∀ b n, op b.timeless n = timelessAnswer (op b n))
    (hquiet : ∀ b n, (op b n).events = [])
    (hok : ∀ {n b}, X n b → ∀ a, (op b n).answer = .ok a → Y n (op b n).state)
    (hfail : ∀ {n b}, X n b → ∀ fault, (op b n).answer = .error fault → Z n (op b n).state)
    (hcame : ∀ {c c'}, Matches (fun _ => timeless) Y c c' → ok c c')
    (hfailed : ∀ {c c'}, Matches (fun _ => timeless) Z c c' → fail c c') :
    (c.call op).AlikeIn ok fail (c'.call op) := by
  refine alikeIn_call op h fun {b b' n} hb hb' hview => ?_
  have heq : timelessAnswer (op b n) = timelessAnswer (op b' n) := by
    rw [← hop, ← hop]
    exact congrArg (op · n) hview
  have hanswer : (timelessAnswer (op b n)).answer = (timelessAnswer (op b' n)).answer :=
    congrArg Reply.answer heq
  have hstate : (timelessAnswer (op b n)).state = (timelessAnswer (op b' n)).state :=
    congrArg Reply.state heq
  refine ⟨hanswer, fun _ => ?_, fun a ha => hcame ?_, fun fault hfault => hfailed ?_⟩
  · rw [hquiet, hquiet]
  · exact ⟨rfl, hok hb a ha, hok hb' a (hanswer.symm.trans ha), hstate⟩
  · exact ⟨rfl, hfail hb fault hfault, hfail hb' fault (hanswer.symm.trans hfault), hstate⟩

theorem levelling_openSession (h : (levelling wait).between c c') :
    (Client.link.openSession c).AlikeIn (levelling wait).opened (levelling wait).between
      (Client.link.openSession c') := by
  obtain ⟨hleft, hright, hview⟩ := h
  have hopened : c.broker.opened = c'.broker.opened := by
    rw [← opened_timeless, hview, opened_timeless]
  have hscript : c.broker.timeless.script = c'.broker.timeless.script := congrArg Broker.script hview
  rw [openSession_eq hleft.connected, openSession_eq hright.connected]
  refine ⟨rfl, fun _ => rfl, fun _ _ => ⟨congrArg (· + 1) hopened, hleft.push, hright.push, ?_⟩,
    fun _ h => nomatch h⟩
  change (c.broker.push _).timeless = (c'.broker.push _).timeless
  rw [push_timeless, push_timeless, hview]
  exact congrArg (fun script => c'.broker.timeless.push (.opened script)) hscript

theorem levelling_awaitConfirms (h : (levelling wait).sent c c') {timeout : Span}
    (hlong : wait ≤ timeout.waitMillis) (fail : Client → Client → Prop) :
    (Client.link.awaitConfirms timeout c).AlikeIn (levelling wait).settled fail
      (Client.link.awaitConfirms timeout c') := by
  refine alikeIn_call (fun b n => b.awaitConfirms n timeout) h
    fun {b b' n} ⟨hb, hopen⟩ ⟨hb', hopen'⟩ hview => ?_
  obtain ⟨hanswer, hsettled, hstate, hheard⟩ := hb.awaitConfirms hopen hlong
  obtain ⟨hanswer', hsettled', hstate', hheard'⟩ := hb'.awaitConfirms hopen' hlong
  have houtcome : ({ b with waits := b.waits + 1 } : Broker).outcome
      = ({ b' with waits := b'.waits + 1 } : Broker).outcome :=
    outcome_congr (congrArg (fun t : Broker => { t with waits := t.waits + 1 }) hview)
  rw [houtcome] at hanswer hstate hheard
  exact ⟨hanswer.trans hanswer'.symm, fun books => (hheard books).trans (hheard' books).symm,
    fun _ _ => ⟨rfl, hsettled, hsettled', hstate.trans hstate'.symm⟩,
    fun fault hfault => nomatch hanswer.symm.trans hfault⟩

theorem levelling_lull {timeout : Span} {r r' : Round Client}
    (h : Round.Alike (Matches (fun _ => timeless) fun n b =>
      Trailing wait n b ∧ (b.coming = [] ∨ wait ≤ timeout.waitMillis)) r r')
    (hopen : r.drained = false) :
    ((Client.link.lull timeout r.link).watch Round.absorb Round.drained r).1
        = ((Client.link.lull timeout r'.link).watch Round.absorb Round.drained r').1
      ∧ Round.Alike (levelling wait).within
        ((Client.link.lull timeout r.link).watch Round.absorb Round.drained r).2
        ((Client.link.lull timeout r'.link).watch Round.absorb Round.drained r').2 := by
  have hopen' : r'.drained = false := by
    unfold Round.drained at hopen ⊢
    rwa [← h.books]
  obtain ⟨hsession, ⟨hb, hlong⟩, ⟨hb', hlong'⟩, hview⟩ := h.link
  obtain ⟨b, journal, hwatch, harrived⟩ := hb.drain hopen hlong
  obtain ⟨b', journal', hwatch', harrived'⟩ := hb'.drain hopen' hlong'
  have houtcome : r.link.broker.outcome = r'.link.broker.outcome := outcome_congr hview
  have hmatches : Matches (fun _ => timeless) (Trailing wait) ⟨b, r.link.session⟩
      ⟨b', r'.link.session⟩ := by
    refine ⟨hsession, hb.arrived harrived, hb'.arrived harrived', ?_⟩
    exact harrived.timeless.trans ((congrArg Prod.fst houtcome).trans harrived'.timeless.symm)
  rw [hwatch, hwatch', houtcome, h.books, hsession]
  rw [hsession] at hmatches
  exact ⟨rfl, .inr hmatches, rfl, h.declared, h.sent⟩

theorem levelling_close (h : (levelling wait).within c c') :
    (Client.link.close c).AlikeIn (levelling wait).between (levelling wait).between
      (Client.link.close c') := by
  have heven : Matches (fun _ => timeless) (fun _ => Even wait) c c' :=
    h.elim (·.imp Fresh.toEven) (·.imp Trailing.toEven)
  have hbetween {c c' : Client} (h : Matches (fun _ => timeless) (fun _ => Even wait) c c') :
      (levelling wait).between c c' := ⟨h.left, h.right, h.view⟩
  exact alikeIn_timeless Broker.close heven (fun _ _ => close_timeless) events_close
    (fun hb _ _ => hb.close) (fun hb _ _ => hb.close) hbetween hbetween

end Alike

/-- Rounds cannot tell two brokers apart that are the same without their clocks, if their waits outlast
the delay of either broker. -/
theorem levelling_alike {settings : Settings}
    (hbatch : settings.pacing ≠ .streaming → wait ≤ settings.batchConfirmTimeout.waitMillis)
    (hdrain : settings.pacing = .streaming → wait ≤ settings.timeout.waitMillis) :
    Client.link.AlikeIn (levelling wait) settings Client.link where
  sent h := h.imp And.left
  settled h := h.imp And.left
  openSession := levelling_openSession
  listen {c c'} h := by
    refine ⟨h.session, h.left.listen 0, h.right.listen 0, ?_⟩
    have hview : c.broker.timeless = c'.broker.timeless := h.view
    change (c.broker.listen c.session 0).timeless = (c'.broker.listen c'.session 0).timeless
    rw [listen_timeless, listen_timeless, hview, h.session]
  enableConfirms h := alikeIn_timeless _ h (fun _ _ => enableConfirms_timeless)
    events_enableConfirms (fun hb _ _ => hb.enableConfirms.2)
    (fun hb _ hfault => nomatch hb.enableConfirms.1.symm.trans hfault) id .inr
  nextTag {c c'} h := by
    have hview : c.broker.timeless = c'.broker.timeless := h.view
    change c.broker.nextTag c.session = c'.broker.nextTag c'.session
    rw [← nextTag_timeless c.broker, hview, h.session]
    exact nextTag_timeless _ _
  declare destination h := alikeIn_timeless (fun b n => b.declare n destination) h
    (fun _ _ => declare_timeless destination) (fun b n => events_declare b n destination)
    (fun hb _ _ => (hb.declare destination).2)
    (fun hb _ hfault => nomatch (hb.declare destination).1.symm.trans hfault) id .inr
  transmit destination properties body h :=
    alikeIn_timeless (fun b n => b.transmit n destination properties body) h
      (fun _ _ => transmit_timeless destination properties body)
      (fun b n => events_transmit b n destination properties body)
      (fun hb tag hanswer => let ⟨hsending, hopen⟩ := hb.transmit destination properties body
        ⟨hsending, hopen tag hanswer⟩)
      (fun hb _ _ => (hb.transmit destination properties body).1) id .inr
  awaitConfirms hpacing h := levelling_awaitConfirms h (hbatch hpacing) _
  lull {r r'} h hopen := by
    refine levelling_lull (h.imp fun hlink => ?_) hopen
    unfold Likeness.done at hlink
    split_ifs at hlink with hpacing
    · exact hlink.imp fun hb => ⟨hb.1, .inl hb.2⟩
    · exact hlink.imp fun hb => ⟨hb, .inr (hdrain (not_not.1 hpacing))⟩
  close := levelling_close
  clock _ := rfl

end ConfirmedDelivery.Broker
