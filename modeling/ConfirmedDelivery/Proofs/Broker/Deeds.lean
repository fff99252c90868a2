import ConfirmedDelivery.Proofs.Broker.Exchange
import ConfirmedDelivery.Proofs.Broker.Own
import ConfirmedDelivery.Proofs.Broker.Waking

/-!
# What is done on a session

Whatever is done on a session (`Deed`) has one of a few effects on the broker (`Effect`), and none of
them touches what belongs to another session (`Effect.own_other`). A wait is done when it ends: it comes
back with what a wait of no length comes back with at that time (`answer_awaitConfirms`).
-/

namespace ConfirmedDelivery.Broker

/-! ## Waits of no length -/

theorem allConfirmed_congr {b b' : Broker} {n : Nat} (h : b'.session? n = b.session? n) :
    b'.allConfirmed n = b.allConfirmed n := by
  unfold Broker.allConfirmed
  rw [h]

theorem lull_zero (b : Broker) : b.lull .zero = .timeUp [] b := by
  have hzero : Span.zero.waitMillis = 0 := by decide +kernel
  exact if_pos (Nat.le_of_eq (congrArg (b.now + ·) hzero))

/-- A wait of no length tells whether everything is answered for, and lets nothing happen. -/
theorem awaitConfirms_zero {b : Broker} {n : Nat} {s : Session} (hs : b.openSession? n = .ok s)
    (hon : s.confirming = true) : b.awaitConfirms n .zero
      = .quiet (.ok (b.allConfirmed n)) { b with waits := b.waits + 1 } := by
  let b' : Broker := { b with waits := b.waits + 1 }
  have hall : b'.allConfirmed n = b.allConfirmed n := allConfirmed_congr (session?_congr rfl n)
  rw [awaitConfirms_on hs hon, ← hall]
  change (if b'.allConfirmed n then _ else _) = _
  rw [lull_zero b']
  cases b'.allConfirmed n <;> rfl

theorem events_awaitConfirms_zero (b : Broker) (n : Nat) : (b.awaitConfirms n .zero).events = [] := by
  rcases hs : b.openSession? n with fault | s
  · rw [awaitConfirms_closed hs]
    rfl
  · cases hon : s.confirming with
    | false =>
      rw [awaitConfirms_off hs hon]
      rfl
    | true =>
      rw [awaitConfirms_zero hs hon]
      rfl

/-- Whoever waits until the deadline for what did not come is told so. -/
theorem watch_lullUntil (deadline n : Nat) : ∀ (times : List (Nat × List Nat)) {b : Broker}
    (heard : List Heard) (b' : Broker), b.allConfirmed n = false →
    let r := (lullUntil deadline times b).watch (fun a heard b => (a.1 ++ heard, b))
      (fun a => a.2.allConfirmed n) (heard, b')
    r.1 = r.2.2.allConfirmed n
  | [], b, _, _, hopen => hopen.symm.trans (allConfirmed_congr (session?_congr rfl n)).symm
  | (time, ns) :: times, b, heard, b', hopen => by
    unfold lullUntil
    split_ifs
    · exact hopen.symm.trans (allConfirmed_congr (session?_congr rfl n)).symm
    · dsimp only
      rw [Lull.watch]
      dsimp only
      split_ifs with hdone
      · exact hdone.symm
      · exact watch_lullUntil deadline n times _ _ (Bool.eq_false_iff.2 hdone)

theorem watch_lull {b : Broker} {n : Nat} (hopen : b.allConfirmed n = false) (timeout : Span) :
    let r := (b.lull timeout).watch (fun a heard b => (a.1 ++ heard, b))
      (fun a => a.2.allConfirmed n) ([], b)
    r.1 = r.2.2.allConfirmed n := by
  unfold lull
  dsimp only
  split_ifs
  · exact hopen.symm
  · rw [Lull.watch]
    dsimp only
    split_ifs with hdone
    · exact hdone.symm
    · exact watch_lullUntil _ n _ _ _ (Bool.eq_false_iff.2 hdone)

/-- No session is closed and none turns its confirms on while no call runs. -/
theorem Interlude.openSession? {b b' : Broker} {heard : List Heard} {n : Nat}
    (h : Interlude b heard b') : ∀ {s : Session}, b.openSession? n = .ok s →
      ∃ s', b'.openSession? n = .ok s' ∧ s'.confirming = s.confirming := by
  induction h with
  | nothing => exact fun hs => ⟨_, hs, rfl⟩
  | @clock b _ _ waits now ready due _ ih =>
    intro s hs
    refine ih ?_
    rwa [Broker.openSession?, session?_congr rfl n]
  | @pass b _ _ k m _ ih =>
    intro s hs
    by_cases hm : m = n
    · subst hm
      obtain ⟨hsession, hopen⟩ := session?_of_openSession? hs
      have hpassed : (b.passFirst k m).1.session? m = some (s.passed k) := by
        rw [passFirst_exact hsession, session?_change, if_pos rfl, hsession, Option.map_some]
      exact (ih (openSession?_of_session hpassed hopen) :)
    · refine ih ?_
      rwa [Broker.openSession?, (passFirst_other b hm k).1]

/-- However long a wait is, it comes back with what a wait of no length that begins at its end comes
back with. -/
theorem answer_awaitConfirms (b : Broker) (n : Nat) (timeout : Span) :
    (b.awaitConfirms n timeout).answer
      = ((b.awaitConfirms n timeout).state.awaitConfirms n .zero).answer := by
  rcases hs : b.openSession? n with fault | s
  · rw [awaitConfirms_closed hs]
    exact (congrArg Reply.answer (awaitConfirms_closed hs .zero)).symm
  cases hon : s.confirming with
  | false =>
    rw [awaitConfirms_off hs hon]
    exact (congrArg Reply.answer (awaitConfirms_off hs hon .zero)).symm
  | true =>
    obtain ⟨s', hs', hon'⟩ := (interlude_awaitConfirms b n timeout).openSession? hs
    rw [awaitConfirms_zero hs' (hon'.trans hon), awaitConfirms_on hs hon]
    split_ifs with hall
    · exact congrArg Except.ok hall.symm
    · exact congrArg Except.ok (watch_lull (Bool.eq_false_iff.2 hall) timeout)

/-! ## Deeds -/

/-- What is done on a session: a call, a pass that takes in the first `k` messages sent, or the end of a
wait (`answer_awaitConfirms`). -/
inductive Deed where
  | listen (listener : Nat)
  | enableConfirms
  | nextTag
  | declare (destination : String)
  | transmit (destination : String) (properties : Properties) (body : ByteArray)
  | await
  | close
  | discard
  | pass (k : Nat)

/-- What comes of it: the broker, what is heard, and what comes back. -/
structure Upshot where
  broker : Broker
  heard : List Heard
  response : Response

namespace Deed

def on (b : Broker) (n : Nat) : Deed → Upshot
  | .listen l => ⟨b.listen n l, [], .nothing⟩
  | .enableConfirms => returns .called (b.enableConfirms n)
  | .nextTag => ⟨b, [], .recorded (some (b.nextTag n))⟩
  | .declare destination => returns .called (b.declare n destination)
  | .transmit destination properties body =>
    returns .sent (b.transmit n destination properties body)
  | .await => returns .awaited (b.awaitConfirms n .zero)
  | .close => returns .called (b.close n)
  | .discard => returns .called (b.discard n)
  | .pass k => ⟨(b.passFirst k n).1, (b.passFirst k n).2, .nothing⟩
where
  returns {α : Type} (f : Except LinkFault α → Response) (r : Answer α) : Upshot :=
    ⟨r.state, r.events, f r.answer⟩

/-- The destinations that are declared, if any. -/
def declares : Deed → List String
  | .declare destination => [destination]
  | _ => []

/-- The destinations that a message is sent to, if any. -/
def sendsTo : Deed → List String
  | .transmit destination _ _ => [destination]
  | _ => []

end Deed

/-- Every destination is declared before a message is sent to it. -/
def DeclaresFirst (declared : List String) : List Deed → Prop
  | [] => True
  | deed :: deeds =>
    (∀ q ∈ deed.sendsTo, q ∈ declared) ∧ DeclaresFirst (deed.declares ++ declared) deeds

instance decidableDeclaresFirst : ∀ (declared : List String) (deeds : List Deed),
    Decidable (DeclaresFirst declared deeds)
  | _, [] => .isTrue trivial
  | declared, deed :: deeds =>
    have := decidableDeclaresFirst (deed.declares ++ declared) deeds
    inferInstanceAs (Decidable (_ ∧ _))

/-! ## What a deed does to a broker -/

/-- The broker after something was done on session `m`, and what was heard: nothing was done that
belongs to a session; or the session changed, and holds nothing new; or a message was sent on it, with
confirms or without; or it passed. -/
inductive Effect (m : Nat) (b : Broker) : Broker → List Heard → Prop where
  | rests (queues : Dict String (List Delivery)) (transmits waits : Nat)
    (hstored : ∀ q, (queues.get? q).getD [] = b.stored q)
    (hcontains : ∀ q, b.queues.contains q = true → queues.contains q = true) :
    Effect m b { b with queues, transmits, waits } []
  | alters (f : Session → Session) (closed : Nat) (ready : List Nat) (due : Dict Nat (List Nat))
    (hcontents : ∀ s, (f s).contents ⊆ s.contents) (hscript : ∀ s, (f s).script = s.script)
    (hclosed : ∀ s, (f s).closed = false → s.closed = false) :
    Effect m b { b with sessions := (b.update m f).sessions, closed, ready, due } []
  | sends {s : Session} (d : Delivery) (attempts : Tally) (transmits : Nat) (ready : List Nat)
    (hs : b.session? m = some s) (hd : d.session = m) :
    Effect m b { b with
      sessions := (b.update m (Session.sent d)).sessions
      deliveries := b.deliveries ++ [d]
      attempts, transmits, ready } []
  | keeps {s : Session} (d : Delivery) (attempts : Tally) (transmits : Nat)
    (hs : b.session? m = some s) (hd : d.session = m) :
    Effect m b (({ b with deliveries := b.deliveries ++ [d], attempts, transmits } : Broker).store d) []
  | passes (k : Nat) : Effect m b (b.passFirst k m).1 (b.passFirst k m).2

theorem effect_nothing (b : Broker) (m : Nat) : Effect m b b [] :=
  .rests b.queues b.transmits b.waits (fun _ => rfl) fun _ h => h

theorem effect_shut (b : Broker) (m : Nat) : Effect m b (b.shut m) [] := by
  obtain ⟨closed, ready, due, heq⟩ := shut_eq b m
  rw [heq]
  refine .alters Session.shut closed ready due (fun s x hx => ?_) (fun _ => rfl)
    fun _ hopen => nomatch hopen
  unfold Session.contents Session.shut at hx
  rw [List.append_nil] at hx
  exact List.mem_append_left _ hx

theorem effect_deed (b : Broker) (m : Nat) (deed : Deed) :
    Effect m b (deed.on b m).broker (deed.on b m).heard := by
  cases deed with
  | listen l =>
    have heq : b.listen m l = { b with
        sessions := (b.update m fun s => { s with listener := some l }).sessions } := by
      cases m <;> rfl
    change Effect m b (b.listen m l) []
    rw [heq]
    exact .alters _ b.closed b.ready b.due (fun _ _ h => h) (fun _ => rfl) fun _ => id
  | enableConfirms =>
    change Effect m b (b.enableConfirms m).state (b.enableConfirms m).events
    rw [events_enableConfirms]
    unfold Broker.enableConfirms
    split
    · exact effect_nothing b m
    next s hs =>
      split_ifs
      · exact effect_nothing b m
      · have heq : b.update m (Session.enabled b)
            = { b with sessions := (b.update m (Session.enabled b)).sessions } := by
          cases m <;> rfl
        change Effect m b { b.update m (Session.enabled b) with
          ready := (b.update m (Session.enabled b)).ready ++ [m] } []
        rw [heq]
        exact .alters _ b.closed _ b.due (fun _ _ h => h) (fun _ => rfl) fun _ => id
  | nextTag => exact effect_nothing b m
  | declare destination =>
    change Effect m b (b.declare m destination).state (b.declare m destination).events
    rw [events_declare]
    unfold Broker.declare
    split
    · exact effect_nothing b m
    · refine .rests _ b.transmits b.waits (stored_declare b destination) fun q hq => ?_
      rw [Dict.contains_insert, hq, Bool.or_true]
  | transmit destination properties body =>
    change Effect m b (b.transmit m destination properties body).state
      (b.transmit m destination properties body).events
    rw [events_transmit]
    rcases transmit_cases b m destination properties body with
      ⟨fault, transmits, heq⟩ | ⟨s, transmits, hs, -, ⟨-, ready, heq⟩ | ⟨-, heq⟩⟩
    · rw [heq]
      exact .rests b.queues transmits b.waits (fun _ => rfl) fun _ h => h
    · rw [heq]
      exact .sends _ _ transmits ready hs rfl
    · rw [heq]
      exact .keeps _ _ transmits hs rfl
  | await =>
    change Effect m b (b.awaitConfirms m .zero).state (b.awaitConfirms m .zero).events
    rcases hs : b.openSession? m with fault | s
    · rw [awaitConfirms_closed hs]
      exact effect_nothing b m
    · cases hon : s.confirming with
      | false =>
        rw [awaitConfirms_off hs hon]
        exact effect_nothing b m
      | true =>
        rw [awaitConfirms_zero hs hon]
        exact .rests b.queues b.transmits (b.waits + 1) (fun _ => rfl) fun _ h => h
  | close =>
    change Effect m b (b.close m).state (b.close m).events
    unfold Broker.close
    split
    · exact effect_nothing b m
    · exact effect_shut b m
  | discard =>
    change Effect m b (b.discard m).state (b.discard m).events
    unfold Broker.discard
    split
    · exact effect_nothing b m
    · exact effect_shut b m
  | pass k => exact .passes k

section Effect

variable {b b' : Broker} {heard : List Heard} {m n : Nat} {s : Session}

theorem own_congr (hsession : b'.session? n = b.session? n)
    (hsent : plainOf n b'.deliveries = plainOf n b.deliveries) (hanswers : b'.answers n = b.answers n)
    (hkept : ∀ q, plainOf n (b'.stored q) = plainOf n (b.stored q)) :
    b'.session? n = b.session? n ∧ b'.own n = b.own n := by
  unfold own
  rw [hsession, hsent, hanswers, funext hkept]
  exact ⟨rfl, rfl⟩

/-- What is done on a session leaves alone what belongs to another one, or to one that is not there. -/
theorem Effect.own_other (h : Effect m b b' heard) (hself : OfItself b)
    (hm : m = n → b.session? m = none) :
    (b'.session? n = b.session? n ∧ b'.own n = b.own n) ∧ heardOn n heard = [] := by
  have hapart {s : Session} (hs : b.session? m = some s) : m ≠ n := fun heq => by
    rw [hm heq] at hs
    cases hs
  have hother {d : Delivery} (hne : m ≠ n) (hd : d.session = m) (ds : List Delivery)
      (hds : ∀ x ∈ ds, x = d) : plainOf n ds = [] :=
    plainOf_other fun x hx => by rwa [hds x hx, hd]
  cases h with
  | rests queues transmits waits hstored _ =>
    exact ⟨own_congr (session?_congr rfl n) rfl rfl fun q => congrArg (plainOf n) (hstored q), rfl⟩
  | alters f closed ready due _ _ _ =>
    refine ⟨own_congr ((session?_updated rfl n).trans ?_) rfl rfl fun _ => rfl, rfl⟩
    split_ifs with heq
    · rw [← heq, hm heq, Option.map_none]
    · rfl
  | sends d attempts transmits ready hs hd =>
    have hnone := hother (hapart hs) hd [d] fun _ => List.mem_singleton.1
    refine ⟨own_congr ((session?_updated rfl n).trans (if_neg (hapart hs))) ?_ rfl fun _ => rfl, rfl⟩
    rw [plainOf_append, hnone, List.append_nil]
  | keeps d attempts transmits hs hd =>
    have hnone := hother (hapart hs) hd
    refine ⟨own_congr (session?_congr rfl n) ?_ rfl fun q => ?_, rfl⟩
    · change plainOf n (b.deliveries ++ [d]) = _
      rw [plainOf_append, hnone [d] fun _ => List.mem_singleton.1, List.append_nil]
    · rw [stored_store, plainOf_append, hnone ([d].filter _) fun _ hx =>
        List.mem_singleton.1 (List.mem_of_mem_filter hx), List.append_nil]
      rfl
  | passes k =>
    by_cases heq : m = n
    · rw [passFirst_none (hm heq)]
      exact ⟨⟨rfl, rfl⟩, rfl⟩
    · refine ⟨⟨(passFirst_other b heq k).1, own_passFirst_other hself heq k⟩, ?_⟩
      rcases hs : b.session? m with _ | s
      · rw [passFirst_none hs]
        rfl
      · rw [passFirst_exact hs]
        exact heardOn_other heq _ _

/-- What lasts whatever is done: the settings, the destinations, and that each session holds what was
sent on it. -/
structure Lasts (b b' : Broker) : Prop where
  reporting : b'.reporting = b.reporting
  limit : b'.limit = b.limit
  opened : b.opened ≤ b'.opened
  contains : ∀ q, b.queues.contains q = true → b'.queues.contains q = true
  ofItself : OfItself b → OfItself b'

theorem Effect.lasts (h : Effect m b b' heard) : Lasts b b' := by
  cases h with
  | rests queues transmits waits _ hcontains =>
    exact ⟨rfl, rfl, Nat.le_refl _, hcontains, fun h => h⟩
  | alters f closed ready due hcontents _ _ =>
    exact ⟨rfl, rfl, (opened_update b m f).ge, fun _ h => h, fun h =>
      h.update (f := f) rfl (List.Subset.refl _) fun s _ hx => .inl (hcontents s hx)⟩
  | sends d attempts transmits ready hs hd =>
    refine ⟨rfl, rfl, (opened_update b m _).ge, fun _ h => h, fun h => ?_⟩
    refine h.update (f := Session.sent d) rfl (List.subset_append_left _ _) fun s x hx => ?_
    rcases List.mem_append.1 hx with hx | hx
    · exact .inl (List.mem_append_left _ hx)
    · rcases List.mem_append.1 hx with hx | hx
      · exact .inl (List.mem_append_right _ hx)
      · rw [List.mem_singleton.1 hx]
        exact .inr ⟨hd, List.mem_append_right _ (List.mem_singleton.2 rfl)⟩
  | keeps d attempts transmits hs hd =>
    refine ⟨rfl, rfl, Nat.le_refl _, fun _ h => contains_store h d, fun h => ?_⟩
    refine h.mono (List.subset_append_left _ _) fun m s' hs' x hx => .inl ⟨s', ?_, hx⟩
    rw [← hs']
    exact (session?_congr rfl m).symm
  | passes k =>
    have hledger := ledger_passFirst b k m
    refine ⟨?_, congrArg Ledger.limit hledger, (congrArg Ledger.opened hledger).ge, fun _ h =>
      contains_passFirst h k m, fun h => h.passFirst m k⟩
    rcases hs : b.session? m with _ | s
    · rw [passFirst_none hs]
    · rw [passFirst_exact hs]
      rfl

theorem Effect.session_self (h : Effect m b b' heard) (hs : b.session? m = some s) :
    ∃ s', b'.session? m = some s' ∧ s'.script = s.script
      ∧ (s'.closed = false → s.closed = false) := by
  cases h with
  | rests => exact ⟨s, (session?_congr rfl m).trans hs, rfl, id⟩
  | alters f closed ready due _ hscript hclosed =>
    refine ⟨f s, (session?_updated rfl m).trans ?_, hscript s, hclosed s⟩
    rw [if_pos rfl, hs, Option.map_some]
  | sends d =>
    refine ⟨s.sent d, (session?_updated rfl m).trans ?_, rfl, id⟩
    rw [if_pos rfl, hs, Option.map_some]
  | keeps d => exact ⟨s, (session?_congr rfl m).trans hs, rfl, id⟩
  | passes k =>
    refine ⟨s.passed k, ?_, rfl, id⟩
    rw [passFirst_exact hs, session?_change, if_pos rfl, hs, Option.map_some]

end Effect

end ConfirmedDelivery.Broker
