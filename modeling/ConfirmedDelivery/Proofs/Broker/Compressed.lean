import ConfirmedDelivery.Proofs.Broker.Twins

/-!
# Runs compress the log

Whatever is done in an exchange on a session, it is all the same whether the session reports every
message by itself or in runs: step by step the exchanges are twins (`Twins.step`), and so are whole
runs (`Twins.run`). All that reporting runs does is to compress the log (`runs_compress`).
-/

namespace ConfirmedDelivery.Broker.Exchange

section Twins

variable {parcel : Message → Parcel} {before : Broker} {x y : Exchange}

/-! ## Steps of both -/

/-- A call during which nothing is heard and that does the same however the session reports. -/
theorem Paired.call {α : Type} {e : Exchange} {added added' : List ConfirmRecord}
    {sent : List Delivery} (h : Paired parcel before e added added' sent)
    {call : Broker → Nat → Answer α}
    (hcall : ∀ mode log, call (e.client.broker.recast e.client.session mode log) e.client.session
      = recastAnswer e.client.session mode log (call e.client.broker e.client.session))
    (hquiet : (call e.client.broker e.client.session).events = [])
    (hdeliveries : (call e.client.broker e.client.session).state.deliveries
      = e.client.broker.deliveries)
    (hnext : (call e.client.broker e.client.session).state.nextTag e.client.session
      = e.client.broker.nextTag e.client.session)
    (hbalances : Balances parcel ((e.cast .individual (before.confirms ++ added)).after call)) :
    let x := e.cast .individual (before.confirms ++ added)
    let y := e.cast .cumulative (before.confirms ++ added')
    y.answer call = x.answer call ∧ Twins parcel before (x.after call) (y.after call) := by
  have hafter : ∀ mode log, (e.cast mode log).after call = (e.cast mode log).hear
      (call (e.cast mode log).client.broker e.client.session).state [] := by
    intro mode log
    have hevents : (call (e.client.broker.recast e.client.session mode log)
        e.client.session).events = [] := by
      rw [hcall]
      exact hquiet
    exact congrArg ((e.cast mode log).hear _) hevents
  have hanswer : ∀ mode log, (e.cast mode log).answer call
      = (call e.client.broker e.client.session).answer := fun mode log =>
    (congrArg Reply.answer (hcall mode log) :)
  dsimp only
  rw [hafter] at hbalances ⊢
  rw [hafter, hanswer, hanswer]
  exact ⟨rfl, h.quietly (f := fun b => (call b e.client.session).state)
    (fun mode log => congrArg Reply.state (hcall mode log)) hdeliveries hnext hbalances⟩

theorem Twins.declare (h : Twins parcel before x y) (destination : String) :
    let call := fun b n => Broker.declare b n destination
    y.answer call = x.answer call ∧ Twins parcel before (x.after call) (y.after call) := by
  obtain ⟨e, added, added', sent, h, rfl, rfl⟩ := h
  refine h.call (fun mode log => declare_recast destination) (events_declare _ _ destination) ?_ ?_
    (h.balances.step (.declare destination))
  · unfold Broker.declare
    split <;> rfl
  · unfold Broker.declare
    split
    · rfl
    · exact nextTag_congr (session?_congr rfl _)

theorem Twins.close (h : Twins parcel before x y) :
    y.answer Broker.close = x.answer Broker.close
      ∧ Twins parcel before (x.after Broker.close) (y.after Broker.close) := by
  obtain ⟨e, added, added', sent, h, rfl, rfl⟩ := h
  refine h.call (fun mode log => close_recast) (events_close ..) ?_ ?_ (h.balances.step .close)
  · unfold Broker.close
    split
    · rfl
    · exact congrArg Ledger.deliveries (ledger_shut _)
  · unfold Broker.close
    split
    · rfl
    · unfold Broker.nextTag
      rw [session?_shut, if_pos rfl, Option.map_map]
      rfl

theorem Twins.record (h : Twins parcel before x y) (m : Message)
    (hfew : (x.step parcel (.record m)).1.recorded < 2 ^ 64) :
    (y.step parcel (.record m)).2 = (x.step parcel (.record m)).2
      ∧ Twins parcel before (x.step parcel (.record m)).1 (y.step parcel (.record m)).1 := by
  obtain ⟨e, added, added', sent, h, rfl, rfl⟩ := h
  have hstep : ∀ mode log, (e.cast mode log).step parcel (.record m)
      = ((e.step parcel (.record m)).1.cast mode log, (e.step parcel (.record m)).2) := by
    intro mode log
    have htag : (e.cast mode log).client.broker.nextTag (e.cast mode log).client.session
        = e.client.broker.nextTag e.client.session := nextTag_recast
    have hunsent : (e.cast mode log).unsent = e.unsent := rfl
    have hbooks : (e.cast mode log).books = e.books := rfl
    unfold Exchange.step
    dsimp only
    rw [htag, hunsent, hbooks]
    cases e.unsent <;> cases e.books.add? (e.client.broker.nextTag e.client.session) m <;> rfl
  have hbalances := h.balances.step (.record m)
  rw [hstep] at hbalances hfew ⊢
  rw [hstep]
  refine ⟨rfl, _, added, added', sent, ?_, rfl, rfl⟩
  obtain ⟨s, lost, hb⟩ := h.balances h.few
  have hunspoken := h.unspoken_eq hb
  unfold Exchange.step at hbalances hfew ⊢
  dsimp only at hbalances hfew ⊢
  split at hbalances
  next books hnone hadd =>
    rw [hnone, hadd] at hfew
    have hnext : e.client.broker.nextTag e.client.session = s.nextTag :=
      nextTag_recast.symm.trans hb.nextTag_eq
    obtain ⟨books', hadd', hb'⟩ := hb.record hnone hfew m
    rw [hnext] at hadd
    obtain rfl := Option.some.inj (hadd.symm.trans hadd')
    refine ⟨hbalances, hfew, h.deliveries, h.singly, ?_, fun r hr hsession => ?_⟩
    · dsimp only
      rw [hunspoken, hnext]
      exact hb'.tags.symm
    · exact (h.bounded r hr hsession).trans (Nat.sub_le _ _)
  next => exact h

/-- Sending has nothing to do with how the session reports. -/
theorem step_send_cast {e : Exchange} {m : Message} (hsome : e.unsent = some m) (mode : Reporting)
    (log : List ConfirmRecord) :
    let reply := transmission (parcel m) e.client.broker e.client.session
    (e.cast mode log).step parcel .send
      = (cast ⟨⟨reply.state, e.client.session⟩, e.books,
          match reply.answer with
          | .ok _ => none
          | .error _ => some m, e.recorded⟩ mode log, .sent reply.answer) := by
  have hreply : transmission (parcel m) (e.client.broker.recast e.client.session mode log)
      e.client.session
      = recastAnswer e.client.session mode log
        (transmission (parcel m) e.client.broker e.client.session) := transmit_recast ..
  have hevents : (transmission (parcel m) e.client.broker e.client.session).events = [] :=
    events_transmit ..
  have hunsent : (e.cast mode log).unsent = some m := hsome
  unfold Exchange.step
  dsimp only
  rw [hunsent]
  dsimp only
  unfold answer after hear cast
  dsimp only
  rw [hreply]
  unfold recastAnswer
  dsimp only
  rw [hevents]
  rfl

theorem step_send_none {e : Exchange} (hnone : e.unsent = none) (mode : Reporting)
    (log : List ConfirmRecord) :
    (e.cast mode log).step parcel .send = (e.cast mode log, .nothing) := by
  have hunsent : (e.cast mode log).unsent = none := hnone
  unfold Exchange.step
  dsimp only
  rw [hunsent]

/-- A message that the session took is not spoken for yet. -/
theorem Paired.handed {e : Exchange} {added added' : List ConfirmRecord} {sent : List Delivery}
    (h : Paired parcel before e added added' sent) {m : Message} (hsome : e.unsent = some m)
    {s : Session} {lost : List Settlement}
    (hb : Balanced parcel (e.cast .individual (before.confirms ++ added)) s lost)
    {b : Broker} {d : Delivery} (hd : d.tag = s.nextTag)
    (hdeliveries : b.deliveries = e.client.broker.deliveries ++ [d])
    (hbalances : Balances parcel
      (cast ⟨⟨b, e.client.session⟩, e.books, none, e.recorded⟩ .individual
        (before.confirms ++ added))) :
    Paired parcel before ⟨⟨b, e.client.session⟩, e.books, none, e.recorded⟩ added added'
      (sent ++ [d]) := by
  have hnext : e.client.broker.nextTag e.client.session = s.nextTag :=
    nextTag_recast.symm.trans hb.nextTag_eq
  have hrecorded : e.recorded = e.sent + 1 := hb.recorded_eq hsome
  have htag : d.tag.toNat = e.sent + 1 := by
    rw [hd, show s.nextTag = UInt64.ofNat (e.sent + 1) from hb.nextTag,
      UInt64.toNat_ofNat_of_lt' (hrecorded ▸ h.few)]
  -- the tags in the log are of messages sent before, so even a multiple confirm does not reach it
  have hfresh : ∀ r ∈ added', r.session = e.client.session → r.confirm.covers d.tag = false := by
    intro r hr hsession
    have hle := h.bounded r hr hsession
    exact not_covers_of_lt (UInt64.lt_iff_toNat_lt.2 (by omega))
  obtain ⟨hsingly, hleft⟩ := singly_later hfresh (sent.map Delivery.tag)
  refine ⟨hbalances, h.few, ?_, ?_, ?_, fun r hr hsession => ?_⟩
  · rw [← List.append_assoc, ← h.deliveries]
    exact hdeliveries
  · rw [List.map_append]
    exact hsingly.trans h.singly
  · have hflight := h.left
    rw [hsome, hnext, ← hd] at hflight
    rw [List.map_append, ← hflight]
    exact (List.append_nil _).trans hleft
  · have hle := h.bounded r hr hsession
    exact hle.trans (by change e.sent ≤ e.recorded - 0; omega)

theorem Twins.send (h : Twins parcel before x y) :
    (y.step parcel .send).2 = (x.step parcel .send).2
      ∧ Twins parcel before (x.step parcel .send).1 (y.step parcel .send).1 := by
  obtain ⟨e, added, added', sent, h, rfl, rfl⟩ := h
  cases hsome : e.unsent with
  | none =>
    rw [step_send_none hsome, step_send_none hsome]
    exact ⟨rfl, _, _, _, _, h, rfl, rfl⟩
  | some m =>
    obtain ⟨s', lost, hb⟩ := h.balances h.few
    obtain ⟨s, hs, rfl⟩ := Option.map_eq_some_iff.1 (session?_recast_self.symm.trans hb.session)
    have hbalances := h.balances.step .send
    rw [step_send_cast hsome] at hbalances ⊢
    rw [step_send_cast hsome]
    refine ⟨rfl, ?_⟩
    unfold transmission at hbalances ⊢
    rcases transmit_cases e.client.broker e.client.session (parcel m).destination
      (parcel m).properties (parcel m).body with
      ⟨fault, transmits, heq⟩ | ⟨s', transmits, hs', -, ⟨-, ready, heq⟩ | ⟨hoff, -⟩⟩
    · rw [heq] at hbalances ⊢
      have hnone : ∀ r ∈ ([] : List ConfirmRecord), r.session ≠ e.client.session :=
        fun _ hr => absurd hr List.not_mem_nil
      have haside := h.aside (b := { e.client.broker with transmits }) hnone
        (by rw [List.append_nil, hsome]; exact hbalances) rfl (nextTag_congr (session?_congr rfl _))
      rw [List.append_nil, List.append_nil, hsome] at haside
      exact ⟨_, _, _, sent, haside, rfl, rfl⟩
    · obtain rfl := Option.some.inj (hs.symm.trans hs')
      rw [heq] at hbalances ⊢
      exact ⟨_, added, added', _, h.handed hsome hb rfl rfl hbalances, rfl, rfl⟩
    · obtain rfl := Option.some.inj (hs.symm.trans hs')
      exact absurd (hb.confirming.symm.trans hoff) Bool.noConfusion

theorem Twins.step (h : Twins parcel before x y) (a : Act)
    (hfew : (x.step parcel a).1.recorded < 2 ^ 64) :
    (y.step parcel a).2 = (x.step parcel a).2
      ∧ Twins parcel before (x.step parcel a).1 (y.step parcel a).1 := by
  cases a with
  | record m => exact h.record m hfew
  | send => exact h.send
  | declare destination =>
    obtain ⟨hanswer, h⟩ := h.declare destination
    exact ⟨congrArg Response.called hanswer, h⟩
  | await timeout =>
    obtain ⟨hanswer, h⟩ := h.await timeout
    exact ⟨congrArg Response.awaited hanswer, h⟩
  | sleep time =>
    obtain ⟨hanswer, h⟩ := h.sleep time
    exact ⟨congrArg Response.called hanswer, h⟩
  | close =>
    obtain ⟨hanswer, h⟩ := h.close
    exact ⟨congrArg Response.called hanswer, h⟩
  | pass k m => exact ⟨rfl, h.passFirst k m⟩
  | clock waits now ready due => exact ⟨rfl, h.clock waits now ready due⟩

/-! ## Whole runs -/

theorem recorded_le_step (e : Exchange) (a : Act) : e.recorded ≤ (e.step parcel a).1.recorded := by
  cases a with
  | record m =>
    unfold Exchange.step
    dsimp only
    split
    · exact Nat.le_succ _
    · exact Nat.le_refl _
  | send =>
    unfold Exchange.step
    dsimp only
    split <;> exact Nat.le_refl _
  | _ => exact Nat.le_refl _

theorem recorded_le_run : ∀ (acts : List Act) (e : Exchange),
    e.recorded ≤ (e.run parcel acts).1.recorded
  | [], _ => Nat.le_refl _
  | a :: acts, e => (recorded_le_step e a).trans (recorded_le_run acts _)

theorem session_step (e : Exchange) (a : Act) :
    (e.step parcel a).1.client.session = e.client.session := by
  cases a with
  | record m =>
    unfold Exchange.step
    dsimp only
    split <;> rfl
  | send =>
    unfold Exchange.step
    dsimp only
    split <;> rfl
  | _ => rfl

theorem session_run : ∀ (acts : List Act) (e : Exchange),
    (e.run parcel acts).1.client.session = e.client.session
  | [], _ => rfl
  | a :: acts, e => (session_run acts _).trans (session_step e a)

theorem Twins.balanced (h : Twins parcel before x y) : ∃ s lost, Balanced parcel x s lost := by
  obtain ⟨e, added, added', sent, h, rfl, rfl⟩ := h
  exact h.balances h.few

theorem Twins.run : ∀ (acts : List Act) {x y : Exchange}, Twins parcel before x y →
    (x.run parcel acts).1.recorded < 2 ^ 64 →
    (y.run parcel acts).2 = (x.run parcel acts).2
      ∧ Twins parcel before (x.run parcel acts).1 (y.run parcel acts).1
  | [], _, _, h, _ => ⟨rfl, h⟩
  | a :: acts, x, y, h, hfew => by
    obtain ⟨hresponse, h⟩ := h.step a ((recorded_le_run acts _).trans_lt hfew)
    obtain ⟨hresponses, h⟩ := Twins.run acts h hfew
    exact ⟨congrArg₂ List.cons hresponse hresponses, h⟩

end Twins

/-- What begins as the confirms of session `n` are turned on, the broker reporting in this way. -/
def begun (mode : Reporting) (b : Broker) (n : Nat) : Exchange :=
  ⟨⟨({ b with reporting := mode }.enableConfirms n).state, n⟩, ∅, none, 0⟩

theorem untouched_begun {b : Broker} {n : Nat} {listener : Option Nat} {s : Session}
    (h : Untouched n listener b s) (mode : Reporting) :
    Untouched n listener { b with reporting := mode } s :=
  { h with session := (session?_congr rfl n).trans h.session }

theorem begun_eq {b : Broker} {n : Nat} {listener : Option Nat} {s : Session}
    (h : Untouched n listener b s) (mode : Reporting) :
    begun mode b n = cast ⟨⟨(b.enableConfirms n).state, n⟩, ∅, none, 0⟩ mode b.confirms := by
  have h' := untouched_begun h mode
  unfold begun cast
  rw [enableConfirms_eq h.session h.unclosed h.confirming,
    enableConfirms_eq h'.session h'.unclosed h'.confirming]
  cases n with
  | zero => rfl
  | succ n =>
    unfold recast Reply.quiet update
    dsimp only
    rw [List.modify_modify_eq]
    rfl

theorem twins_begun (parcel : Message → Parcel) {b : Broker} {n l : Nat} {s : Session}
    (h : Untouched n (some l) b s) :
    Twins parcel b (begun .individual b n) (begun .cumulative b n) := by
  have hgoing := ((untouched_begun h .individual).enabled parcel).2
  have hbalances : Balances parcel (begun .individual b n) := hgoing.reached.balances
  rw [begun_eq h] at hbalances
  rw [begun_eq h, begun_eq h]
  refine ⟨⟨⟨(b.enableConfirms n).state, n⟩, ∅, none, 0⟩, [], [], [],
    ⟨?_, hgoing.few, ?_, rfl, rfl, fun r hr => absurd hr List.not_mem_nil⟩, ?_, ?_⟩
  · rwa [List.append_nil]
  · dsimp only
    rw [enableConfirms_eq h.session h.unclosed h.confirming]
    exact (List.append_nil _).symm
  · rw [List.append_nil]
  · rw [List.append_nil]

/-- Reporting runs only compresses what is reported. Whatever is done on a session and whenever
sessions pass, it makes no difference to anybody whether the session reports every message by itself
or runs: not to the answers of calls, to the books, to the queues or to the session; and the log of
the runs, told one by one, is the log of single messages. -/
theorem runs_compress (parcel : Message → Parcel) {b : Broker} {n l : Nat} {s : Session}
    (h : Untouched n (some l) b s) (acts : List Act) :
    let x := (begun .individual b n).run parcel acts
    let y := (begun .cumulative b n).run parcel acts
    x.1.recorded < 2 ^ 64 →
      y.2 = x.2 ∧ y.1.books = x.1.books
        ∧ y.1.client.broker.queues = x.1.client.broker.queues
        ∧ (∃ s, x.1.client.broker.session? n = some s
          ∧ y.1.client.broker.session? n = some { s with reporting := .cumulative })
        ∧ ∃ added added' sent, x.1.client.broker.confirms = b.confirms ++ added
          ∧ y.1.client.broker.confirms = b.confirms ++ added'
          ∧ x.1.client.broker.deliveries = b.deliveries ++ sent
          ∧ singly n (sent.map Delivery.tag) added' = added := by
  intro x y hfew
  obtain ⟨hresponses, htwins⟩ := (twins_begun parcel h).run acts hfew
  have hsession := htwins.session? n
  have hn : x.1.client.session = n := session_run acts _
  obtain ⟨s', lost, hb⟩ := htwins.balanced
  have hs' : x.1.client.broker.session? x.1.client.session = some s' := hb.session
  rw [hn] at hs'
  rw [hs', Option.map_some, if_pos hn] at hsession
  obtain ⟨e, added, added', sent, hpaired, hx, hy⟩ := htwins
  have hn' : e.client.session = n := (congrArg (fun e => e.client.session) hx).symm.trans hn
  change x.1 = _ at hx
  change y.1 = _ at hy
  refine ⟨hresponses, ?_, ?_, ⟨s', hs', hsession⟩, added, added', sent, ?_, ?_, ?_,
    hn' ▸ hpaired.singly⟩
  · rw [hx, hy]
    rfl
  · rw [hx, hy]
    rfl
  · rw [hx]
    rfl
  · rw [hy]
    rfl
  · rw [hx]
    exact hpaired.deliveries

/-- A broker that says nothing of the third message of a session and refuses the fourth. -/
def wavering : Broker :=
  { start with
    script := fun d => if d.tag = 3 then .withhold else if d.tag = 4 then .nack else .ack }

theorem runs_compress_wavering :
    let hello : Message := ⟨1, "Hello", .empty, .empty⟩
    let parcel := Settings.standard.parcel
    let acts : List Act := [.declare "hello", .record hello, .send, .record hello, .send,
      .record hello, .send, .record hello, .send, .pass 4 1]
    let b := wavering.openSession.state.listen 1 0
    let x := (begun .individual b 1).run parcel acts
    let y := (begun .cumulative b 1).run parcel acts
    x.1.client.broker.confirms.map ConfirmRecord.confirm
        = [.ack 1 false, .ack 2 false, .nack 4 false]
      ∧ y.1.client.broker.confirms.map ConfirmRecord.confirm = [.ack 2 true, .nack 4 false]
      ∧ y.2 = x.2 ∧ y.1.books = x.1.books
      ∧ ∃ added added' sent, x.1.client.broker.confirms = b.confirms ++ added
        ∧ y.1.client.broker.confirms = b.confirms ++ added'
        ∧ x.1.client.broker.deliveries = b.deliveries ++ sent
        ∧ singly 1 (sent.map Delivery.tag) added' = added := by
  intro hello parcel acts b
  have hopened : Untouched 1 (some 0) b _ := (untouched_openSession (b := wavering) rfl).listen 0
  have hfew : ((begun .individual b 1).run parcel acts).1.recorded < 2 ^ 64 := by decide +kernel
  obtain ⟨hanswers, hbooks, -, -, hlog⟩ := runs_compress parcel hopened acts hfew
  exact ⟨by decide +kernel, by decide +kernel, hanswers, hbooks, hlog⟩

end ConfirmedDelivery.Broker.Exchange
