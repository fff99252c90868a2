import ConfirmedDelivery.Proofs.Broker.Deeds

/-!
# What does not depend on the clock

Of a broker an `Excerpt` leaves out the clock and what is to happen when, and all that sessions do at
which one does not look. What such sessions report does not show in it, nor that sessions pass which
have nothing to report (`excerpt_passFirst_other`); and what it shows of a pass of the session in use
can be told from the excerpt before (`excerpt_pass`).
-/

namespace ConfirmedDelivery.Broker

/-! ## Sessions with nothing to report -/

/-- A session that has nothing to report: all that it holds is withheld. -/
def Session.Spent (s : Session) : Prop := ∀ x ∈ s.contents, x.settles = false

namespace Session.Spent

variable {s : Session}

theorem passed (h : s.Spent) (k : Nat) : (s.passed k).Spent := fun x hx => h x (contents_passed hx)

theorem settled (h : s.Spent) (k : Nat) :
    (s.accept k).pending.values.filter Settlement.settles = [] :=
  List.filter_eq_nil_iff.2 fun x hx => Bool.eq_false_iff.1 (h x (contents_accept hx))

theorem accepted (h : s.Spent) (k : Nat) : accepted (s.accept k).pending.values = [] := by
  rw [← accepted_settled, h.settled k]
  rfl

theorem told (h : s.Spent) (k : Nat) : s.told k = [] := by
  have hflat : (reports s.reporting (s.accept k).pending.values).flatten = [] :=
    (flatten_reports ..).trans (h.settled k)
  unfold Session.told
  refine List.filterMap_eq_nil_iff.2 fun run hrun => ?_
  rw [List.flatten_eq_nil_iff.1 hflat run hrun]
  rfl

/-- A pass that takes in nothing leaves such a session as it is. -/
theorem passed_zero (h : s.Spent) : s.passed 0 = s := by
  have hpending : s.pending.keep (fun _ x => !x.settles) = s.pending :=
    Dict.ext (List.filter_eq_self.2 fun e he => congrArg not
      (h e.2 (List.mem_append_left _ (List.mem_map_of_mem he))))
  have hsettle : (s.accept 0).settle = s :=
    congrArg (fun pending => { s with pending }) hpending
  unfold Session.passed
  rw [hsettle, h.settled 0]
  rfl

end Session.Spent

/-! ## Places -/

/-- Every destination at which something was got exists. -/
def Housed (b : Broker) : Prop := ∀ d ∈ b.deliveries, b.queues.contains d.destination = true

section Housed

variable {b b' : Broker} {n : Nat}

theorem Housed.mono (h : Housed b)
    (hdeliveries : ∀ d ∈ b'.deliveries, d ∈ b.deliveries ∨ b'.queues.contains d.destination = true)
    (hcontains : ∀ q, b.queues.contains q = true → b'.queues.contains q = true) : Housed b' :=
  fun d hd => (hdeliveries d hd).elim (fun hd => hcontains _ (h d hd)) id

theorem Housed.same (h : Housed b) (hdeliveries : b'.deliveries = b.deliveries)
    (hcontains : ∀ q, b.queues.contains q = true → b'.queues.contains q = true) : Housed b' :=
  h.mono (fun _ hd => .inl (hdeliveries ▸ hd)) hcontains

/-- A message is sent only where its destination exists. -/
theorem deliveries_transmit (b : Broker) (n : Nat) (destination : String) (properties : Properties)
    (body : ByteArray) :
    (b.transmit n destination properties body).state.deliveries = b.deliveries
      ∨ b.queues.contains destination = true ∧ ∃ d, d.destination = destination
        ∧ (b.transmit n destination properties body).state.deliveries = b.deliveries ++ [d] := by
  rcases transmit_cases b n destination properties body with
    ⟨fault, transmits, heq⟩ | ⟨s, transmits, hs, hopen, hsent⟩
  · rw [heq]
    exact .inl rfl
  · cases hknown : b.queues.contains destination with
    | true =>
      refine .inr ⟨rfl, b.sentAs n s.nextTag destination properties body, rfl, ?_⟩
      rcases hsent with ⟨-, ready, heq⟩ | ⟨-, heq⟩
      · rw [heq]
      · rw [heq]
        rfl
    | false =>
      refine .inl ?_
      unfold transmit
      rw [openSession?_of_session hs hopen]
      simp only [hknown, Bool.not_false, ↓reduceIte]
      rfl

theorem Housed.transmit (h : Housed b) (destination : String) (properties : Properties)
    (body : ByteArray) : Housed (b.transmit n destination properties body).state := by
  have hcontains : ∀ q, b.queues.contains q = true → _ :=
    (effect_deed b n (.transmit destination properties body)).lasts.contains
  rcases deliveries_transmit b n destination properties body with
    heq | ⟨hknown, d, hd, heq⟩
  · exact h.same heq hcontains
  · refine h.mono (fun d' hd' => ?_) hcontains
    rw [heq] at hd'
    rcases List.mem_append.1 hd' with hd' | hd'
    · exact .inl hd'
    · rw [List.mem_singleton.1 hd', hd]
      exact .inr (hcontains destination hknown)

theorem Housed.passFirst (h : Housed b) (k : Nat) : Housed (b.passFirst k n).1 :=
  h.same (congrArg Ledger.deliveries (ledger_passFirst b k n)) fun _ hq => contains_passFirst hq k n

theorem Housed.shut (h : Housed b) : Housed (b.shut n) := by
  obtain ⟨closed, ready, due, heq⟩ := shut_eq b n
  rw [heq]
  exact h

theorem housed_of_reachable {idle : Broker → Broker → Prop}
    (hidle : ∀ b b', idle b b' → ∃ heard, Interlude b heard b') (h : Reachable idle b) :
    Housed b := by
  -- all calls but one leave what was got, and none takes a destination away
  have done {b : Broker} (ih : Housed b) (m : Nat) (deed : Deed)
      (hsame : (deed.on b m).broker.deliveries = b.deliveries) : Housed (deed.on b m).broker :=
    ih.same hsame (effect_deed b m deed).lasts.contains
  induction h with
  | start => exact fun d hd => absurd hd List.not_mem_nil
  | configured _ _ _ _ _ _ ih => exact ih
  | @openSession b _ ih =>
    refine ih.same ?_ (lasts_of_cases b)
    rcases openSession_cases b with ⟨-, heq⟩ | ⟨-, heq⟩ <;> rw [heq] <;> rfl
  | @listen b m l _ ih =>
    refine done ih m (.listen l) ?_
    change (b.listen m l).deliveries = b.deliveries
    unfold Broker.listen
    rw [update_eq]
    rfl
  | @enableConfirms b m _ ih =>
    refine done ih m .enableConfirms ?_
    change (b.enableConfirms m).state.deliveries = b.deliveries
    unfold Broker.enableConfirms
    split
    · rfl
    · split_ifs
      · rfl
      · rw [update_eq]
        rfl
  | @declare b m destination _ ih =>
    refine done ih m (.declare destination) ?_
    change (b.declare m destination).state.deliveries = b.deliveries
    unfold Broker.declare
    split <;> rfl
  | transmit m destination properties body _ ih => exact ih.transmit destination properties body
  | @close b m _ ih =>
    unfold Broker.close
    split
    · exact ih
    · exact ih.shut
  | @discard b m _ ih =>
    unfold Broker.discard
    split
    · exact ih
    · exact ih.shut
  | idle _ hmoved ih =>
    obtain ⟨heard, hinter⟩ := hidle _ _ hmoved
    exact ih.same (congrArg Ledger.deliveries hinter.ledger) fun _ => hinter.contains
where
  lasts_of_cases (b : Broker) (q : String) (hq : b.queues.contains q = true) :
      b.openSession.state.queues.contains q = true := by
    rcases openSession_cases b with ⟨-, heq⟩ | ⟨-, heq⟩ <;> rw [heq] <;> exact hq

end Housed

/-- What each session holds was sent on it to a destination that exists; and the sessions that `P` looks
at have nothing to report, unless it is session `n`. -/
structure Quiet (P : Nat → Bool) (n : Nat) (b : Broker) : Prop where
  own : OfItself b
  housed : Housed b
  spent : ∀ {m s}, m ≠ n → P m = true → b.session? m = some s → s.Spent

section Quiet

variable {P : Nat → Bool} {n : Nat} {b : Broker}

theorem Quiet.congr {b' : Broker} (h : Quiet P n b) (hsessions : b'.sessions = b.sessions)
    (hdeliveries : b'.deliveries = b.deliveries)
    (hcontains : ∀ q, b.queues.contains q = true → b'.queues.contains q = true) : Quiet P n b' where
  own m s hs := by
    rw [hdeliveries]
    exact h.own m s ((session?_congr hsessions m).symm.trans hs)
  housed := h.housed.same hdeliveries hcontains
  spent hm hseen hs := h.spent hm hseen ((session?_congr hsessions _).symm.trans hs)

theorem Quiet.passFirst (h : Quiet P n b) (k m : Nat) : Quiet P n (b.passFirst k m).1 where
  own := h.own.passFirst m k
  housed := h.housed.passFirst k
  spent {m' s'} hm' hseen hs' := by
    by_cases hpasses : m = m'
    · subst hpasses
      rcases hs : b.session? m with _ | s
      · rw [passFirst_none hs, hs] at hs'
        cases hs'
      · rw [passFirst_exact hs, session?_change, if_pos rfl, hs] at hs'
        obtain rfl := Option.some.inj hs'
        exact (h.spent hm' hseen hs).passed k
    · rw [(passFirst_other b hpasses k).1] at hs'
      exact h.spent hm' hseen hs'

end Quiet

/-! ## Excerpts -/

/-- A session whenever its passes are to report. -/
def Session.timeless (s : Session) : Session := { s with delay := .zero }

/-- What can be told of a broker without its clock. -/
@[ext] structure Excerpt where
  ledger : Ledger
  reporting : Reporting
  transmits : Nat
  /-- The session in use. -/
  session : Option Session
  queues : Dict String (List Delivery)
  confirms : List ConfirmRecord

/-- What is kept of the sessions that `P` looks at. -/
def keptBy (P : Nat → Bool) (queues : Dict String (List Delivery)) : Dict String (List Delivery) :=
  queues.mapValues fun _ ds => ds.filter fun d => P d.session

/-- The excerpt of a broker on which session `n` is in use: of what was answered and kept it has only
what belongs to the sessions that `P` looks at. -/
def excerpt (P : Nat → Bool) (n : Nat) (b : Broker) : Excerpt where
  ledger := { b.ledger with delay := .zero }
  reporting := b.reporting
  transmits := b.transmits
  session := (b.session? n).map Session.timeless
  queues := keptBy P b.queues
  confirms := b.confirms.filter fun r => P r.session

/-- The excerpt after a pass of the session in use that takes in everything. -/
def Excerpt.pass (n : Nat) (e : Excerpt) : Excerpt :=
  match e.session with
  | none => e
  | some s =>
    { e with
      session := some (s.passed s.queue.length)
      queues := kept e.queues (accepted (s.accept s.queue.length).pending.values)
      confirms := e.confirms ++ (s.told s.queue.length).map (ConfirmRecord.mk n) }

/-- What is heard of such a pass. -/
def Excerpt.heard (n : Nat) (e : Excerpt) : List Confirm :=
  match e.session with
  | none => []
  | some s => Client.confirmsOf n (heardBy n s.listener (s.told s.queue.length))

/-- Whether every message of the session in use is answered for. -/
def Excerpt.allConfirmed (e : Excerpt) : Bool := (e.session.map Session.unconfirmed).getD 0 == 0

/-- Nothing comes of a pass if nothing was sent and what was taken in is withheld. -/
theorem Excerpt.pass_spent {e : Excerpt} {s : Session} (hs : e.session = some s) (hspent : s.Spent)
    (hqueue : s.queue = []) (n : Nat) : e.pass n = e ∧ e.heard n = [] := by
  have hlength : s.queue.length = 0 := congrArg List.length hqueue
  unfold Excerpt.pass Excerpt.heard
  rw [hs]
  dsimp only
  rw [hlength, hspent.passed_zero, hspent.accepted, hspent.told]
  refine ⟨Excerpt.ext rfl rfl rfl hs.symm rfl (List.append_nil _), rfl⟩

section Excerpt

variable {P : Nat → Bool} {b b' : Broker} {n m : Nat} {s : Session}

theorem excerpt_clock (waits now : Nat) (ready : List Nat) (due : Dict Nat (List Nat)) :
    ({ b with waits, now, ready, due } : Broker).excerpt P n = b.excerpt P n := by
  unfold excerpt
  rw [session?_congr rfl n]
  rfl

/-- What is kept shows if it belongs to a session that is looked at. -/
theorem keptBy_kept : ∀ (ds : List Delivery) (queues : Dict String (List Delivery)),
    (∀ d ∈ ds, P d.session = true) → keptBy P (kept queues ds) = kept (keptBy P queues) ds
  | [], _, _ => rfl
  | d :: ds, queues, h => by
    obtain ⟨hd, hds⟩ := List.forall_mem_cons.1 h
    have hnext : keptBy P (queues.insert d.destination ((queues.get? d.destination).getD [] ++ [d]))
        = (keptBy P queues).insert d.destination
          (((keptBy P queues).get? d.destination).getD [] ++ [d]) := by
      unfold keptBy
      rw [Dict.mapValues_insert, Dict.get?_mapValues, List.filter_append]
      simp only [hd, List.filter_cons_of_pos, List.filter_nil]
      cases queues.get? d.destination <;> rfl
    have ih := keptBy_kept ds (queues.insert d.destination ((queues.get? d.destination).getD [] ++ [d]))
      hds
    rw [hnext] at ih
    exact ih

/-- And otherwise it does not, provided that there is a place for it. -/
theorem keptBy_hidden : ∀ (ds : List Delivery) (queues : Dict String (List Delivery)),
    (∀ d ∈ ds, P d.session = false ∧ queues.contains d.destination = true) →
    keptBy P (kept queues ds) = keptBy P queues
  | [], _, _ => rfl
  | d :: ds, queues, h => by
    obtain ⟨⟨hd, hplace⟩, hds⟩ := List.forall_mem_cons.1 h
    let queues' := queues.insert d.destination ((queues.get? d.destination).getD [] ++ [d])
    have hsame : keptBy P queues' = keptBy P queues := by
      obtain ⟨old, hold⟩ : ∃ old, queues.get? d.destination = some old := by
        obtain ⟨e, he, hkey⟩ := List.any_eq_true.1 hplace
        exact ⟨e.2, Dict.get?_eq_some.2 (of_decide_eq_true hkey ▸ he)⟩
      change keptBy P (queues.insert d.destination ((queues.get? d.destination).getD [] ++ [d])) = _
      unfold keptBy
      rw [Dict.mapValues_insert, hold, Option.getD_some, List.filter_append]
      refine Dict.insert_present ?_
      rw [Dict.get?_mapValues, hold]
      simp [hd]
    have ih := keptBy_hidden ds queues' fun d' hd' => ⟨(hds d' hd').1, by
      rw [Dict.contains_insert, (hds d' hd').2, Bool.or_true]⟩
    exact ih.trans hsame

/-- What one session answers shows if one looks at it. -/
theorem filter_answers (P : Nat → Bool) (n : Nat) (cs : List Confirm) :
    (cs.map (ConfirmRecord.mk n)).filter (fun r => P r.session)
      = if P n then cs.map (ConfirmRecord.mk n) else [] := by
  have hall : (fun r : ConfirmRecord => P r.session) ∘ ConfirmRecord.mk n = fun _ => P n := rfl
  rw [List.filter_map, hall]
  cases P n <;> simp

/-- A pass of another session does not show, if one does not look at that session or it has nothing to
report. -/
theorem excerpt_passFirst_other (h : Quiet P n b) (hm : m ≠ n) (k : Nat) :
    (b.passFirst k m).1.excerpt P n = b.excerpt P n := by
  rcases hs : b.session? m with _ | s
  · rw [passFirst_none hs]
  have hsession := (passFirst_other b hm k).1
  have hledger := ledger_passFirst b k m
  rw [passFirst_exact hs] at hsession hledger ⊢
  unfold excerpt
  rw [hsession, hledger]
  refine Excerpt.ext rfl rfl rfl rfl ?_ ?_
  · change keptBy P (kept b.queues (accepted (s.accept k).pending.values)) = keptBy P b.queues
    cases hseen : P m with
    | true =>
      rw [(h.spent hm hseen hs).accepted k]
      rfl
    | false =>
      refine keptBy_hidden _ _ fun d hd => ?_
      obtain ⟨x, hx, rfl⟩ := List.mem_map.1 hd
      obtain ⟨hsession, hgot⟩ := h.own m s hs x (contents_accept (List.mem_of_mem_filter hx))
      exact ⟨hsession ▸ hseen, h.housed _ hgot⟩
  · change (b.confirms ++ (s.told k).map (ConfirmRecord.mk m)).filter _ = b.confirms.filter _
    rw [List.filter_append, filter_answers]
    split_ifs with hseen
    · rw [(h.spent hm hseen hs).told k]
      exact List.append_nil _
    · exact List.append_nil _

/-- Where no session is in use, nothing shows of what happens while no call runs. -/
theorem excerpt_interlude {heard : List Heard} (hidle : Interlude b heard b') (h : Quiet P 0 b) :
    b'.excerpt P 0 = b.excerpt P 0 := by
  induction hidle with
  | nothing => rfl
  | clock waits now ready due _ ih => exact (ih (h.congr rfl rfl fun _ => id)).trans (excerpt_clock ..)
  | @pass b _ _ k m _ ih =>
    refine (ih (h.passFirst k m)).trans ?_
    by_cases hm : m = 0
    · rw [hm]
      rfl
    · exact excerpt_passFirst_other h hm k

/-- A pass of the session in use shows. -/
theorem excerpt_pass (hself : OfItself b) (hseen : P n = true) (hs : b.session? n = some s) :
    (b.pass n).1.excerpt P n = (b.excerpt P n).pass n
      ∧ Client.confirmsOf n (b.pass n).2 = (b.excerpt P n).heard n := by
  have hqueued : b.queued n = s.queue.length := by
    unfold queued
    rw [hs]
    rfl
  have hledger := ledger_passFirst b s.queue.length n
  have haccepted := hself.accepted hs s.queue.length
  unfold pass
  rw [hqueued]
  rw [passFirst_exact hs] at hledger ⊢
  constructor
  · unfold excerpt Excerpt.pass
    rw [hledger, session?_change, if_pos rfl, hs]
    refine Excerpt.ext rfl rfl rfl rfl ?_ ?_
    · exact keptBy_kept _ _ fun d hd => haccepted d hd ▸ hseen
    · change (b.confirms ++ (s.told s.queue.length).map (ConfirmRecord.mk n)).filter _
        = b.confirms.filter _ ++ (s.told s.queue.length).map (ConfirmRecord.mk n)
      rw [List.filter_append, filter_answers, if_pos hseen]
  · unfold excerpt Excerpt.heard
    rw [hs]
    rfl

/-! ## Calls -/

theorem excerpt_updated (f g : Session → Session) (hfg : ∀ s, (f s).timeless = g s.timeless)
    (deliveries : List Delivery) (attempts : Tally) (transmits : Nat) (ready : List Nat) :
    ({ b with
        sessions := (b.update n f).sessions
        deliveries, attempts, transmits, ready } : Broker).excerpt P n
      = { b.excerpt P n with
        ledger := { (b.excerpt P n).ledger with deliveries, attempts }
        transmits
        session := (b.excerpt P n).session.map g } := by
  let b' : Broker := { b with
    sessions := (b.update n f).sessions
    deliveries, attempts, transmits, ready }
  have hopened : b'.opened = b.opened := opened_update b n f
  have hsession : (b'.session? n).map Session.timeless
      = ((b.session? n).map Session.timeless).map g := by
    have hsessions : b'.sessions = (b.update n f).sessions := rfl
    rw [session?_updated hsessions, if_pos rfl, Option.map_map, Option.map_map]
    exact congrArg (Option.map · _) (funext hfg)
  refine Excerpt.ext ?_ rfl rfl hsession rfl rfl
  change { b'.ledger with delay := .zero } = { (b.excerpt P n).ledger with deliveries, attempts }
  unfold ledger
  rw [hopened]
  rfl

theorem excerpt_listen (l : Nat) : (b.listen n l).excerpt P n
    = { b.excerpt P n with
      session := (b.excerpt P n).session.map fun s => { s with listener := some l } } := by
  let f : Session → Session := fun s => { s with listener := some l }
  have heq : b.listen n l = { b with sessions := (b.update n f).sessions } := by cases n <;> rfl
  rw [heq]
  exact excerpt_updated f f (fun _ => rfl) b.deliveries b.attempts b.transmits b.ready

theorem excerpt_enabled (ready : List Nat) :
    ({ b with sessions := (b.update n (Session.enabled b)).sessions, ready } : Broker).excerpt P n
      = { b.excerpt P n with session := (b.excerpt P n).session.map fun s =>
          { s with confirming := true, reporting := (b.excerpt P n).reporting, nextTag := 1 } } :=
  excerpt_updated (Session.enabled b) _ (fun _ => rfl) b.deliveries b.attempts b.transmits ready

theorem excerpt_push (s : Session) : (b.push s).excerpt P (b.opened + 1)
    = { b.excerpt P 0 with
      ledger := { (b.excerpt P 0).ledger with opened := (b.excerpt P 0).ledger.opened + 1 }
      session := some s.timeless } := by
  have hsession : ((b.push s).session? (b.opened + 1)).map Session.timeless = some s.timeless := by
    rw [session?_push, if_pos rfl]
    rfl
  refine Excerpt.ext ?_ rfl rfl hsession rfl rfl
  exact congrArg (fun opened => { (b.excerpt P 0).ledger with opened }) (opened_push b s)

theorem excerpt_shut : (b.shut n).excerpt P 0 = { b.excerpt P n with session := none } := by
  obtain ⟨closed, ready, due, heq⟩ := shut_eq b n
  have hledger := ledger_shut (b := b) n
  rw [heq] at hledger ⊢
  unfold excerpt
  rw [hledger]
  rfl

theorem stored_keptBy (queues : Dict String (List Delivery)) (q : String) :
    ((keptBy P queues).get? q).getD [] = ((queues.get? q).getD []).filter fun d => P d.session := by
  unfold keptBy
  rw [Dict.get?_mapValues]
  cases queues.get? q <;> rfl

theorem excerpt_declare (destination : String) :
    let e := b.excerpt P n
    ({ b with queues := b.queues.insert destination (b.stored destination) } : Broker).excerpt P n
      = { e with
        queues := e.queues.insert destination ((e.queues.get? destination).getD []) } := by
  refine Excerpt.ext rfl rfl rfl (congrArg (Option.map _) (session?_congr rfl n)) ?_ rfl
  change keptBy P (b.queues.insert destination (b.stored destination))
    = (keptBy P b.queues).insert destination (((keptBy P b.queues).get? destination).getD [])
  rw [stored_keptBy]
  exact Dict.mapValues_insert ..

/-- What becomes of an excerpt when a message is sent on the session in use, whose confirms are on. -/
def Excerpt.transmit (n : Nat) (destination : String) (properties : Properties) (body : ByteArray)
    (e : Excerpt) : Except LinkFault Tag × Excerpt :=
  if !e.queues.contains destination then (.error (.unknownDestination destination), e)
  else if e.ledger.limit.any (fun most => decide (most ≤ e.transmits)) then
    (.error (.connectionClosed "connection reset during transmit"),
      { e with transmits := e.transmits + 1 })
  else
    let attempts := Tally.bump properties.messageId e.ledger.attempts
    let tag := (e.session.map Session.nextTag).getD 0
    let d : Delivery :=
      ⟨n, tag, destination, Tally.count attempts properties.messageId, properties, body⟩
    (.ok tag, { e with
      ledger := { e.ledger with deliveries := e.ledger.deliveries ++ [d], attempts }
      transmits := e.transmits + 1
      session := e.session.map (Session.sent d) })

/-- On a session whose confirms are on sending fails where there is no such destination or the limit is
reached; otherwise the session is ready to pass. -/
theorem transmit_confirming (hs : b.session? n = some s) (hopen : s.closed = false)
    (hon : s.confirming = true) (hfree : n ∉ b.scheduled) (destination : String)
    (properties : Properties) (body : ByteArray) :
    let full := b.limit.any fun most => decide (most ≤ b.transmits)
    let d := b.sentAs n s.nextTag destination properties body
    (b.queues.contains destination = false
        ∧ b.transmit n destination properties body
          = .quiet (.error (.unknownDestination destination)) b)
      ∨ (b.queues.contains destination = true ∧ full = true
        ∧ b.transmit n destination properties body
          = .quiet (.error (.connectionClosed "connection reset during transmit"))
            { b with transmits := b.transmits + 1 })
      ∨ b.queues.contains destination = true ∧ full = false
        ∧ ∃ ready, n ∈ ready ∧ b.transmit n destination properties body
          = ⟨.ok s.nextTag, [], [.transmitted n s.nextTag destination],
            { b with
              sessions := (b.update n (Session.sent d)).sessions
              attempts := Tally.bump properties.messageId b.attempts
              deliveries := b.deliveries ++ [d]
              transmits := b.transmits + 1
              ready }⟩ := by
  cases hknown : b.queues.contains destination with
  | false =>
    refine .inl ⟨rfl, ?_⟩
    unfold Broker.transmit
    rw [openSession?_of_session hs hopen]
    dsimp only
    rw [hknown, if_pos (Bool.not_false)]
  | true =>
    refine .inr ?_
    cases hfull : b.limit.any (fun most => decide (most ≤ b.transmits)) with
    | true =>
      obtain ⟨most, hmost, hle⟩ := (Option.any_eq_true _ _).1 hfull
      exact .inl ⟨rfl, rfl, transmit_full hs hopen hmost (of_decide_eq_true hle) hknown _ _⟩
    | false =>
      have hroom : ∀ most ∈ b.limit, b.transmits < most := fun most hmost =>
        Nat.lt_of_not_le fun hle => Bool.false_ne_true
          (hfull.symm.trans ((Option.any_eq_true _ _).2 ⟨most, hmost, decide_eq_true hle⟩))
      exact .inr ⟨rfl, rfl, transmit_eq hs hopen hon hroom hknown hfree properties body⟩

theorem excerpt_transmit (hs : b.session? n = some s) (hopen : s.closed = false)
    (hon : s.confirming = true) (hfree : n ∉ b.scheduled) (destination : String)
    (properties : Properties) (body : ByteArray) :
    let r := b.transmit n destination properties body
    (r.answer, r.state.excerpt P n) = (b.excerpt P n).transmit n destination properties body := by
  have hcontains : (b.excerpt P n).queues.contains destination = b.queues.contains destination :=
    Dict.contains_mapValues _ _ _
  have htag : ((b.excerpt P n).session.map Session.nextTag).getD 0 = s.nextTag := by
    unfold excerpt
    rw [hs]
    rfl
  have hfull : (b.excerpt P n).ledger.limit.any
      (fun most => decide (most ≤ (b.excerpt P n).transmits))
        = b.limit.any fun most => decide (most ≤ b.transmits) := rfl
  unfold Excerpt.transmit
  rw [hcontains, hfull, htag]
  rcases transmit_confirming hs hopen hon hfree destination properties body with
    ⟨hknown, heq⟩ | ⟨hknown, hfull, heq⟩ | ⟨hknown, hfull, ready, -, heq⟩
  · rw [heq, hknown]
    rfl
  · rw [heq, hknown, hfull]
    exact congrArg (Prod.mk _) (Excerpt.ext rfl rfl rfl
      (congrArg (Option.map _) (session?_congr rfl n)) rfl rfl)
  · rw [heq, hknown, hfull]
    let f := Session.sent (b.sentAs n s.nextTag destination properties body)
    have hsent := excerpt_updated (P := P) (b := b) (n := n) f f fun _ => rfl
    exact congrArg (Prod.mk _) (hsent ..)

end Excerpt

end ConfirmedDelivery.Broker
