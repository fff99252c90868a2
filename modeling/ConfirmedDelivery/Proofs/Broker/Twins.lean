import ConfirmedDelivery.Proofs.Broker.Abreast
import ConfirmedDelivery.Proofs.Broker.Recast
import ConfirmedDelivery.Proofs.Broker.Singly
import ConfirmedDelivery.Proofs.Broker.Waking

/-!
# Twin exchanges

Twins are two exchanges in which the same is done on a session and the sessions pass at the same
times, and the session reports every message by itself in one of them and runs in the other. They
differ in the log of the broker only. A pass of the session keeps them twins (`Paired.pass_own`), as
does whatever happens elsewhere (`Paired.aside`); so waiting is the same for both (`Follow`).
-/

namespace ConfirmedDelivery.Broker.Exchange

/-- The exchange whose session reports in this way, and with this log. -/
def cast (e : Exchange) (mode : Reporting) (log : List ConfirmRecord) : Exchange :=
  { e with client := ⟨e.client.broker.recast e.client.session mode log, e.client.session⟩ }

/-- An exchange, what was added to the log of the broker `before` if its session reports every
message by itself, what was added if it reports runs, and what was sent. -/
structure Paired (parcel : Message → Parcel) (before : Broker) (e : Exchange)
    (added added' : List ConfirmRecord) (sent : List Delivery) : Prop where
  balances : Balances parcel (e.cast .individual (before.confirms ++ added))
  few : e.recorded < 2 ^ 64
  deliveries : e.client.broker.deliveries = before.deliveries ++ sent
  singly : Broker.singly e.client.session (sent.map Delivery.tag) added' = added
  /-- What the log does not speak for is in flight, and what is not yet sent. -/
  left : unspoken e.client.session (sent.map Delivery.tag) added'
      ++ (e.unsent.toList.map fun _ => e.client.broker.nextTag e.client.session)
    = e.books.inFlight.tags
  bounded : ∀ r ∈ added', r.session = e.client.session → r.confirm.tag.toNat ≤ e.sent

/-- Two exchanges that are the same but for the way in which their session reports. -/
def Twins (parcel : Message → Parcel) (before : Broker) (x y : Exchange) : Prop :=
  ∃ e added added' sent, Paired parcel before e added added' sent
    ∧ x = e.cast .individual (before.confirms ++ added)
    ∧ y = e.cast .cumulative (before.confirms ++ added')

/-- Goes on with what the broker does by itself. -/
def through (e : Exchange) (f : Broker → Broker × List Heard) : Exchange :=
  e.hear (f e.client.broker).1 (f e.client.broker).2

section Paired

variable {parcel : Message → Parcel} {before : Broker} {e : Exchange}
  {added added' : List ConfirmRecord} {sent : List Delivery}

/-- What the log does not speak for is what the session holds and what it lost. -/
theorem Paired.unspoken_eq (h : Paired parcel before e added added' sent) {s : Session}
    {lost : List Settlement}
    (hb : Balanced parcel (e.cast .individual (before.confirms ++ added)) s lost) :
    unspoken e.client.session (sent.map Delivery.tag) added'
      = (s.contents ++ lost).map Settlement.tag := by
  have hnext : e.client.broker.nextTag e.client.session = s.nextTag :=
    nextTag_recast.symm.trans hb.nextTag_eq
  have hleft := h.left.trans hb.tags
  rw [hnext] at hleft
  exact List.append_cancel_right hleft

theorem cast_through_own {s : Session} {l : Nat}
    (hs : e.client.broker.session? e.client.session = some s) (hl : s.listener = some l) (k : Nat)
    (mode : Reporting) (log : List ConfirmRecord) :
    let told := (s.recast mode).told k
    (e.cast mode log).through (fun b => passFirst k b e.client.session)
      = Exchange.cast ⟨⟨(e.client.broker.passFirst k e.client.session).1, e.client.session⟩,
          e.books.handleAll told, e.unsent, e.recorded⟩ mode
        (log ++ told.map (ConfirmRecord.mk e.client.session)) := by
  unfold through hear cast
  dsimp only
  rw [passFirst_recast hs, hl, confirmsOf_heardBy]

/-- A pass of the session tells the same in both ways. -/
theorem Paired.pass_own (h : Paired parcel before e added added' sent) (k : Nat) :
    let f := fun b => passFirst k b e.client.session
    Twins parcel before ((e.cast .individual (before.confirms ++ added)).through f)
      ((e.cast .cumulative (before.confirms ++ added')).through f) := by
  intro f
  obtain ⟨s', lost, hb⟩ := h.balances h.few
  obtain ⟨s, hs, rfl⟩ := Option.map_eq_some_iff.1 (session?_recast_self.symm.trans hb.session)
  obtain ⟨l, hl⟩ : ∃ l, s.listener = some l := hb.listened
  obtain ⟨hcontents, hpassed⟩ := contents_split hb.inOrder k
  let told := fun mode => (s.recast mode).told k
  -- the books: what is taken in comes first in flight, so both ways take the same out of it
  have hseen := hb.inFlight
  rw [hcontents, List.append_assoc, List.map_append, List.append_assoc] at hseen
  have hbooks : e.books.handleAll (told .cumulative) = e.books.handleAll (told .individual) :=
    handleAll_reports_singly .cumulative hb.current hseen
  have hx := cast_through_own hs hl k .individual (before.confirms ++ added)
  have hy := cast_through_own hs hl k .cumulative (before.confirms ++ added')
  dsimp only at hx hy
  rw [List.append_assoc] at hx hy
  have hb' := hb.pass_own k
  change Balanced parcel ((e.cast .individual (before.confirms ++ added)).through f) _ _ at hb'
  rw [hx] at hb'
  rw [show e.books.handleAll ((s.recast .cumulative).told k) = _ from hbooks] at hy
  -- the log: the runs are peeled off the tags that are not spoken for, and nothing else is
  let rest := s.queue.drop k ++ lost
  let taken := (s.accept k).pending.values
  have hpeels := (peels_reports .cumulative taken).append rest
  have hwhole : (s.recast .individual).contents ++ lost = taken ++ rest := by
    rw [hcontents, List.append_assoc]
    rfl
  have hasc : Ascending (taken ++ rest) := hwhole ▸ hb.ascending
  obtain ⟨hsingly, hunspoken⟩ := hpeels.singly (n := e.client.session) hasc
  rw [flatten_reports, ← confirms_individual, ← hwhole, ← h.unspoken_eq hb] at hsingly
  rw [← hwhole, ← h.unspoken_eq hb] at hunspoken
  refine ⟨_, _, _, sent, ⟨fun _ => ⟨_, _, hb'⟩, h.few, ?_, ?_, ?_, ?_⟩, hx, hy⟩
  · exact (congrArg Ledger.deliveries (ledger_passFirst ..)).trans h.deliveries
  · rw [singly_append, h.singly]
    exact congrArg (added ++ ·) hsingly
  · have htags := hb'.tags
    rw [hpassed, List.append_assoc] at htags
    have hnext : (e.client.broker.passFirst k e.client.session).1.nextTag e.client.session
        = s.nextTag := nextTag_recast.symm.trans hb'.nextTag_eq
    rw [unspoken_append]
    dsimp only
    rw [hnext]
    exact (congrArg (· ++ _) hunspoken).trans htags.symm
  · intro r hr hsession
    rcases List.mem_append.1 hr with hr | hr
    · exact h.bounded r hr hsession
    · obtain ⟨c, hc, rfl⟩ := List.mem_map.1 hr
      obtain ⟨x, hx, htag⟩ := told_of_contents hc
      dsimp only
      rw [htag]
      exact hb.bounded x (List.mem_append_left _ hx)

theorem nextTag_congr {b b' : Broker} {n : Nat} (h : b'.session? n = b.session? n) :
    b'.nextTag n = b.nextTag n := by
  unfold Broker.nextTag
  rw [h]

/-- What happens elsewhere is written down in the same way. -/
theorem Paired.aside (h : Paired parcel before e added added' sent) {b : Broker}
    {more : List ConfirmRecord} (hmore : ∀ r ∈ more, r.session ≠ e.client.session)
    (hbalances : Balances parcel
      ({ e with client := ⟨b, e.client.session⟩ }.cast .individual
        (before.confirms ++ (added ++ more))))
    (hdeliveries : b.deliveries = e.client.broker.deliveries)
    (hnext : b.nextTag e.client.session = e.client.broker.nextTag e.client.session) :
    Paired parcel before { e with client := ⟨b, e.client.session⟩ } (added ++ more) (added' ++ more)
      sent where
  balances := hbalances
  few := h.few
  deliveries := hdeliveries.trans h.deliveries
  singly := by
    rw [singly_append, h.singly, (singly_other hmore _).1]
  left := by
    rw [unspoken_append]
    dsimp only
    rw [(singly_other hmore _).2, hnext]
    exact h.left
  bounded r hr hsession := by
    rcases List.mem_append.1 hr with hr | hr
    · exact h.bounded r hr hsession
    · exact absurd hsession (hmore r hr)

theorem Paired.pass_other (h : Paired parcel before e added added' sent) {m : Nat}
    (hm : m ≠ e.client.session) (k : Nat) :
    let f := fun b => passFirst k b m
    Twins parcel before ((e.cast .individual (before.confirms ++ added)).through f)
      ((e.cast .cumulative (before.confirms ++ added')).through f) := by
  intro f
  obtain ⟨told, hcast⟩ := passFirst_recast_other hm e.client.broker k
  obtain ⟨hsession, hheard⟩ := passFirst_other e.client.broker hm k
  have hthrough : ∀ mode log, (e.cast mode (before.confirms ++ log)).through f
      = cast { e with client := ⟨(e.client.broker.passFirst k m).1, e.client.session⟩ } mode
        (before.confirms ++ (log ++ told.map (ConfirmRecord.mk m))) := by
    intro mode log
    unfold through hear cast f
    dsimp only
    rw [hcast, hheard, List.append_assoc]
    rfl
  have hmore : ∀ r ∈ told.map (ConfirmRecord.mk m), r.session ≠ e.client.session := by
    intro r hr
    obtain ⟨c, -, rfl⟩ := List.mem_map.1 hr
    exact hm
  have hbalances : Balances parcel ((e.cast .individual (before.confirms ++ added)).through f) :=
    h.balances.step (.pass k m)
  rw [hthrough] at hbalances
  refine ⟨_, _, _, sent, h.aside hmore hbalances ?_ ?_, hthrough .individual added,
    hthrough .cumulative added'⟩
  · exact congrArg Ledger.deliveries (ledger_passFirst ..)
  · exact nextTag_congr hsession

/-- What changes neither the log nor what is sent does the same to both. -/
theorem Paired.quietly (h : Paired parcel before e added added' sent) {f : Broker → Broker}
    (hf : ∀ mode log, f (e.client.broker.recast e.client.session mode log)
      = (f e.client.broker).recast e.client.session mode log)
    (hdeliveries : (f e.client.broker).deliveries = e.client.broker.deliveries)
    (hnext : (f e.client.broker).nextTag e.client.session
      = e.client.broker.nextTag e.client.session)
    (hbalances : let x := e.cast .individual (before.confirms ++ added)
      Balances parcel (x.hear (f x.client.broker) [])) :
    let x := e.cast .individual (before.confirms ++ added)
    let y := e.cast .cumulative (before.confirms ++ added')
    Twins parcel before (x.hear (f x.client.broker) []) (y.hear (f y.client.broker) []) := by
  have hhear : ∀ mode log, (e.cast mode log).hear (f (e.cast mode log).client.broker) []
      = cast { e with client := ⟨f e.client.broker, e.client.session⟩ } mode log := by
    intro mode log
    unfold hear cast
    dsimp only
    rw [hf]
    rfl
  dsimp only at hbalances ⊢
  rw [hhear] at hbalances ⊢
  rw [hhear]
  have hnone : ∀ r ∈ ([] : List ConfirmRecord), r.session ≠ e.client.session :=
    fun _ hr => absurd hr List.not_mem_nil
  have haside := h.aside (b := f e.client.broker) hnone (by rwa [List.append_nil]) hdeliveries hnext
  rw [List.append_nil, List.append_nil] at haside
  exact ⟨_, _, _, sent, haside, rfl, rfl⟩

end Paired

section Twins

variable {parcel : Message → Parcel} {before : Broker} {x y : Exchange}

theorem Twins.passFirst (h : Twins parcel before x y) (k m : Nat) :
    Twins parcel before (x.through fun b => b.passFirst k m)
      (y.through fun b => b.passFirst k m) := by
  obtain ⟨e, added, added', sent, h, rfl, rfl⟩ := h
  by_cases hm : m = e.client.session
  · subst hm
    exact h.pass_own k
  · exact h.pass_other hm k

theorem Twins.clock (h : Twins parcel before x y) (waits now : Nat) (ready : List Nat)
    (due : Dict Nat (List Nat)) :
    Twins parcel before (x.hear { x.client.broker with waits, now, ready, due } [])
      (y.hear { y.client.broker with waits, now, ready, due } []) := by
  obtain ⟨e, added, added', sent, h, rfl, rfl⟩ := h
  refine h.quietly (f := fun b => { b with waits, now, ready, due }) (fun mode log => ?_) rfl ?_
    (h.balances.step (.clock waits now ready due))
  · generalize e.client.session = n
    cases n <;> rfl
  · exact nextTag_congr (session?_congr rfl _)

theorem Twins.agenda (h : Twins parcel before x y) :
    y.client.broker.agenda = x.client.broker.agenda := by
  obtain ⟨e, added, added', sent, -, rfl, rfl⟩ := h
  rfl

/-- The sessions that are to pass may be rearranged according to when they are to. -/
theorem Twins.rearrange (h : Twins parcel before x y) (f : Agenda → Agenda) :
    Twins parcel before (x.hear (x.client.broker.rearranged f) [])
      (y.hear (y.client.broker.rearranged f) []) := by
  have hclock := h.clock
  obtain ⟨e, added, added', sent, -, rfl, rfl⟩ := h
  exact hclock _ _ _ _

/-! ## What the broker does by itself -/

theorem Twins.session (h : Twins parcel before x y) : y.client.session = x.client.session := by
  obtain ⟨e, added, added', sent, -, rfl, rfl⟩ := h
  rfl

/-- All sessions are the same but for the way in which one of them reports. -/
theorem Twins.session? (h : Twins parcel before x y) (m : Nat) : y.client.broker.session? m
    = (x.client.broker.session? m).map fun s =>
      if x.client.session = m then s.recast .cumulative else s := by
  obtain ⟨e, added, added', sent, -, rfl, rfl⟩ := h
  change (e.client.broker.recast _ _ _).session? m
    = ((e.client.broker.recast _ _ _).session? m).map fun s =>
      if e.client.session = m then s.recast .cumulative else s
  rw [session?_recast, session?_recast]
  split_ifs
  · rw [Option.map_map]
    rfl
  · exact (congrFun Option.map_id _).symm

theorem Twins.pass (h : Twins parcel before x y) (m : Nat) :
    Twins parcel before (x.through fun b => b.pass m) (y.through fun b => b.pass m) := by
  have hqueued : y.client.broker.queued m = x.client.broker.queued m := by
    obtain ⟨e, added, added', sent, -, rfl, rfl⟩ := h
    exact (queued_recast m).trans (queued_recast m).symm
  have hpass := h.passFirst (x.client.broker.queued m) m
  unfold through at hpass ⊢
  dsimp only [Broker.pass] at hpass ⊢
  rwa [hqueued]

/-- One after the other. -/
theorem through_through (e : Exchange) (f g : Broker → Broker × List Heard) :
    e.through (fun b => ((g (f b).1).1, (f b).2 ++ (g (f b).1).2)) = (e.through f).through g :=
  (hear_hear ..).symm

theorem Twins.passAll : ∀ (ns : List Nat) {x y : Exchange}, Twins parcel before x y →
    Twins parcel before (x.through (passAll ns)) (y.through (passAll ns))
  | [], _, _, h => h
  | n :: ns, x, y, h => by
    have hrest := Twins.passAll ns (h.pass n)
    rwa [← through_through, ← through_through] at hrest

theorem beginPass_some {b : Broker} {m : Nat} {s : Session} (hs : b.session? m = some s) :
    b.beginPass m = if s.queue.isEmpty then (b, []) else if s.delay.nanos = 0 then b.pass m else
      let time := b.now + s.delay.waitMillis
      ({ b with due := b.due.insert time ((b.due.get? time).getD [] ++ [m]) }, []) := by
  unfold beginPass
  rw [hs]

theorem beginPass_none {b : Broker} {m : Nat} (hs : b.session? m = none) :
    b.beginPass m = (b, []) := by
  unfold beginPass
  rw [hs]

theorem Twins.beginPass (h : Twins parcel before x y) (m : Nat) :
    Twins parcel before (x.through fun b => b.beginPass m) (y.through fun b => b.beginPass m) := by
  have hsession := h.session? m
  cases hx : x.client.broker.session? m with
  | none =>
    rw [hx, Option.map_none] at hsession
    unfold through
    dsimp only
    rw [beginPass_none hx, beginPass_none hsession]
    exact h
  | some s =>
    rw [hx, Option.map_some] at hsession
    have hqueue : (if x.client.session = m then s.recast .cumulative else s).queue = s.queue := by
      split_ifs <;> rfl
    have hdelay : (if x.client.session = m then s.recast .cumulative else s).delay = s.delay := by
      split_ifs <;> rfl
    unfold through
    dsimp only
    rw [beginPass_some hx, beginPass_some hsession, hqueue, hdelay]
    split_ifs
    · exact h
    · exact h.pass m
    · have hclock := h.clock
      obtain ⟨e, added, added', sent, -, rfl, rfl⟩ := h
      exact hclock _ _ _ _

theorem Twins.beginAll : ∀ (ns : List Nat) {x y : Exchange}, Twins parcel before x y →
    Twins parcel before (x.through (beginAll ns)) (y.through (beginAll ns))
  | [], _, _, h => h
  | n :: ns, x, y, h => by
    have hrest := Twins.beginAll ns (h.beginPass n)
    rwa [← through_through, ← through_through] at hrest

theorem Twins.runReady (h : Twins parcel before x y) :
    Twins parcel before (x.through runReady) (y.through runReady) := by
  let overdue := fun b : Broker => (b.due.keep fun time _ => decide (time ≤ b.now)).values.flatten
  let later := fun b : Broker => { b with due := b.due.keep fun time _ => decide (b.now < time) }
  let idle := fun b : Broker => { b with ready := [] }
  have hoverdue : overdue y.client.broker = overdue x.client.broker := by
    obtain ⟨e, added, added', sent, -, rfl, rfl⟩ := h
    rfl
  have hlater : Twins parcel before (x.hear (later x.client.broker) [])
      (y.hear (later y.client.broker) []) :=
    h.rearrange fun a => { a with due := a.due.keep fun time _ => decide (a.now < time) }
  have hpassed := hlater.passAll (overdue x.client.broker)
  have hsplit : ∀ e : Exchange, e.through Broker.runReady
      = (let e' := (e.hear (later e.client.broker) []).through
          (Broker.passAll (overdue e.client.broker))
        (e'.hear (idle e'.client.broker) []).through (Broker.beginAll e'.client.broker.ready)) := by
    intro e
    unfold through
    dsimp only
    rw [hear_hear, hear_hear, hear_hear]
    rfl
  rw [hsplit, hsplit, hoverdue]
  generalize (x.hear _ []).through _ = x' at hpassed ⊢
  generalize (y.hear _ []).through _ = y' at hpassed ⊢
  have hready : y'.client.broker.ready = x'.client.broker.ready :=
    congrArg Agenda.ready hpassed.agenda
  have hidle : Twins parcel before (x'.hear (idle x'.client.broker) [])
      (y'.hear (idle y'.client.broker) []) := hpassed.rearrange fun a => { a with ready := [] }
  dsimp only
  rw [hready]
  exact hidle.beginAll _

/-! ## Waiting -/

/-- Twins that stay twins while both wait. -/
def Follow (parcel : Message → Parcel) (before : Broker) :
    Exchange → Exchange → Lull Heard Broker → Lull Heard Broker → Prop
  | x, y, .timeUp heard b, .timeUp heard' b' =>
    Twins parcel before (x.hear b heard) (y.hear b' heard')
  | x, y, .stir heard b next, .stir heard' b' next' =>
    Twins parcel before (x.hear b heard) (y.hear b' heard')
      ∧ Follow parcel before (x.hear b heard) (y.hear b' heard') next next'
  | _, _, _, _ => False

theorem Twins.lullUntil (deadline : Nat) : ∀ (times : List (Nat × List Nat)) {x y : Exchange},
    Twins parcel before x y →
    Follow parcel before x y (lullUntil deadline times x.client.broker)
      (lullUntil deadline times y.client.broker)
  | [], _, _, h => h.rearrange fun a => { a with now := deadline }
  | (time, ns) :: times, x, y, h => by
    unfold Broker.lullUntil
    split_ifs
    · exact h.rearrange fun a => { a with now := deadline }
    · have hclock := h.rearrange fun a =>
        { a with now := time, due := a.due.keep fun t _ => decide (time < t) }
      have hpassed := hclock.passAll ns
      have hjoin : ∀ (e : Exchange) (b : Broker), (e.hear b []).through (Broker.passAll ns)
          = e.hear (Broker.passAll ns b).1 (Broker.passAll ns b).2 := fun e b => hear_hear ..
      rw [hjoin, hjoin] at hpassed
      exact ⟨hpassed, Twins.lullUntil deadline times hpassed⟩

theorem Twins.lull (h : Twins parcel before x y) (timeout : Span) :
    Follow parcel before x y (x.client.broker.lull timeout) (y.client.broker.lull timeout) := by
  have hready := h.runReady
  have hnow : y.client.broker.now = x.client.broker.now := congrArg Agenda.now h.agenda
  have hdue : y.client.broker.runReady.1.due = x.client.broker.runReady.1.due :=
    congrArg Agenda.due hready.agenda
  unfold Broker.lull deadline
  dsimp only
  rw [hnow, hdue]
  split_ifs
  · exact h
  · exact ⟨hready, Twins.lullUntil _ _ hready⟩

theorem Twins.allConfirmed (h : Twins parcel before x y) :
    y.client.broker.allConfirmed y.client.session
      = x.client.broker.allConfirmed x.client.session := by
  obtain ⟨e, added, added', sent, -, rfl, rfl⟩ := h
  exact allConfirmed_recast.trans allConfirmed_recast.symm

/-- Both watchers see at the same time that everything is answered for. -/
theorem Follow.watch {n : Nat} (hx : x.client.session = n) (hy : y.client.session = n) :
    ∀ {lull lull' : Lull Heard Broker} {heard heard' : List Heard} {b b' : Broker},
      Follow parcel before (x.hear b heard) (y.hear b' heard') lull lull' →
      let watch := Lull.watch (fun (a : List Heard × Broker) heard b => (a.1 ++ heard, b))
        fun a => a.2.allConfirmed n
      let r := watch (heard, b) lull
      let r' := watch (heard', b') lull'
      r'.1 = r.1 ∧ Twins parcel before (x.hear r.2.2 r.2.1) (y.hear r'.2.2 r'.2.1)
  | .timeUp _ _, .timeUp _ _, _, _, _, _, h => by
    refine ⟨rfl, ?_⟩
    unfold Follow at h
    rwa [hear_hear, hear_hear] at h
  | .stir more c next, .stir more' c' next', heard, heard', _, _, ⟨h, hnext⟩ => by
    rw [hear_hear, hear_hear] at h hnext
    have hdone : c'.allConfirmed n = c.allConfirmed n := by
      have := h.allConfirmed
      change c'.allConfirmed y.client.session = c.allConfirmed x.client.session at this
      rwa [hx, hy] at this
    dsimp only
    rw [Lull.watch, Lull.watch]
    dsimp only
    rw [hdone]
    split_ifs
    · exact ⟨rfl, h⟩
    · exact Follow.watch hx hy hnext
  | .timeUp _ _, .stir _ _ _, _, _, _, _, h => h.elim
  | .stir _ _ _, .timeUp _ _, _, _, _, _, h => h.elim

theorem Follow.toEnd : ∀ {lull lull' : Lull Heard Broker} {x y : Exchange},
    Follow parcel before x y lull lull' →
    Twins parcel before (x.hear lull.toEnd.2 lull.toEnd.1) (y.hear lull'.toEnd.2 lull'.toEnd.1)
  | .timeUp _ _, .timeUp _ _, _, _, h => h
  | .stir _ _ _, .stir _ _ _, _, _, ⟨_, hnext⟩ => by
    have h := Follow.toEnd hnext
    rwa [hear_hear, hear_hear] at h
  | .timeUp _ _, .stir _ _ _, _, _, h => h.elim
  | .stir _ _ _, .timeUp _ _, _, _, h => h.elim

theorem Twins.openSession? (h : Twins parcel before x y) :
    y.client.broker.openSession? y.client.session
      = (x.client.broker.openSession? x.client.session).map (Session.recast .cumulative) := by
  obtain ⟨e, added, added', sent, -, rfl, rfl⟩ := h
  change (e.client.broker.recast e.client.session _ _).openSession? e.client.session
    = ((e.client.broker.recast e.client.session _ _).openSession? e.client.session).map _
  rw [openSession?_recast, openSession?_recast]
  cases e.client.broker.openSession? e.client.session <;> rfl

theorem Twins.await (h : Twins parcel before x y) (timeout : Span) :
    let call := fun b n => awaitConfirms b n timeout
    y.answer call = x.answer call ∧ Twins parcel before (x.after call) (y.after call) := by
  intro call
  have hopen := h.openSession?
  have hwaits : Twins parcel before
      (x.hear { x.client.broker with waits := x.client.broker.waits + 1 } [])
      (y.hear { y.client.broker with waits := y.client.broker.waits + 1 } []) :=
    h.rearrange fun a => { a with waits := a.waits + 1 }
  have hall := hwaits.allConfirmed
  have hwatch := Follow.watch rfl h.session (hwaits.lull timeout)
  unfold answer after call
  dsimp only
  cases hs : x.client.broker.openSession? x.client.session with
  | error fault =>
    rw [hs] at hopen
    rw [awaitConfirms_closed hs, awaitConfirms_closed hopen]
    exact ⟨rfl, h⟩
  | ok s =>
    rw [hs] at hopen
    cases hon : s.confirming with
    | false =>
      rw [awaitConfirms_off hs hon, awaitConfirms_off hopen hon]
      exact ⟨rfl, h⟩
    | true =>
      rw [awaitConfirms_on hs hon, awaitConfirms_on hopen hon]
      change Broker.allConfirmed { y.client.broker with waits := _ } y.client.session
        = Broker.allConfirmed { x.client.broker with waits := _ } x.client.session at hall
      rw [hall, h.session]
      split_ifs
      · exact ⟨rfl, hwaits⟩
      · exact ⟨congrArg Except.ok hwatch.1, hwatch.2⟩

theorem Twins.sleep (h : Twins parcel before x y) (time : Span) :
    let call := fun b (_ : Nat) => Broker.sleep b time
    y.answer call = x.answer call ∧ Twins parcel before (x.after call) (y.after call) :=
  ⟨rfl, (h.lull time).toEnd⟩

end Twins

end ConfirmedDelivery.Broker.Exchange
