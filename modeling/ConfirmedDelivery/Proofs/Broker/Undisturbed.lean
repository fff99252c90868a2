import ConfirmedDelivery.Proofs.Broker.Deeds

/-!
# Sessions do not disturb each other

On one broker many sessions are used at a time, and what is done on them and when they pass comes in
any order (`Happening`). What comes of what is done on a session depends on nothing but what belongs to
the session itself (`alike_deed`), as long as the script does not look at the number of the session and
no limit is shared. So a session on which the same is done comes to the same end whatever happens around
it (`undisturbed`).
-/

namespace ConfirmedDelivery.Broker

/-! ## What comes of a deed -/

/-- What can be seen from session `n` of what comes of it. -/
def Upshot.seen (u : Upshot) (n : Nat) : Own × List (Nat × Confirm) × Response :=
  (u.broker.own n, heardOn n u.heard, u.response)

section Own

variable {b b' : Broker} {n : Nat} {s : Session}

theorem own_updated {f : Session → Session} (hs : b.session? n = some s)
    (hsessions : b'.sessions = (b.update n f).sessions) (hsent : b'.deliveries = b.deliveries)
    (hanswers : b'.confirms = b.confirms) (hkept : ∀ q, b'.stored q = b.stored q) :
    b'.own n = { b.own n with session := some (f s).plain } := by
  unfold own
  rw [session?_updated hsessions, if_pos rfl, hs, hsent, answers_congr n hanswers, funext hkept]
  rfl

theorem own_listen (hs : b.session? n = some s) (l : Nat) :
    (b.listen n l).own n = { b.own n with session := some { s.plain with listener := some l } } := by
  have heq : b.listen n l = b.change n (fun s => { s with listener := some l }) b.queues b.confirms :=
    update_eq ..
  rw [heq]
  exact own_updated (f := fun s => { s with listener := some l }) hs rfl rfl rfl fun _ => rfl

theorem own_shut (hs : b.session? n = some s) :
    (b.shut n).own n = { b.own n with session := some s.plain.shut } := by
  obtain ⟨closed, ready, due, heq⟩ := shut_eq b n
  rw [heq]
  exact own_updated (f := Session.shut) hs rfl rfl rfl fun _ => rfl

theorem own_enabled (hs : b.session? n = some s) (hopen : s.closed = false)
    (hoff : s.confirming = false) : (b.enableConfirms n).state.own n = { b.own n with
      session := some { s.plain with confirming := true, reporting := b.reporting, nextTag := 1 } } := by
  rw [enableConfirms_eq hs hopen hoff]
  exact own_updated (f := Session.enabled b) hs rfl rfl rfl fun _ => rfl

/-- A script that is blind rules on the plain delivery in the same way. -/
theorem plain_sent (hblind : Blind s.script) (d : Delivery) :
    (s.sent d).plain = s.plain.sent d.plain := by
  have hrule : Settlement.plain ⟨s.script d, d⟩ = ⟨s.script d.plain, d.plain⟩ :=
    congrArg (Settlement.mk · d.plain) (hblind d).symm
  unfold Session.sent Session.plain
  rw [List.map_append, List.map_singleton, hrule]

/-- Sending a message to a destination that exists, without a limit. -/
theorem transmit_known (hs : b.session? n = some s) (hopen : s.closed = false)
    (hlimit : b.limit = none) {destination : String}
    (hknown : b.queues.contains destination = true) (properties : Properties) (body : ByteArray) :
    (b.transmit n destination properties body).answer = .ok (if s.confirming then s.nextTag else 0)
      ∧ (b.transmit n destination properties body).state.own n =
        let d := (b.sentAs n s.nextTag destination properties body).plain
        if s.confirming then { b.own n with
          session := some (s.sent (b.sentAs n s.nextTag destination properties body)).plain
          sent := (b.own n).sent ++ [d] }
        else { b.own n with
          sent := (b.own n).sent ++ [d]
          kept := fun q => (b.own n).kept q ++ [d].filter fun d => d.destination = q } := by
  have hanswer : (b.transmit n destination properties body).answer
      = .ok (if s.confirming then s.nextTag else 0) := by
    unfold transmit
    rw [openSession?_of_session hs hopen, hlimit]
    simp only [hknown, Bool.not_true, Bool.false_eq_true, ↓reduceIte, Option.any_none]
    cases s.confirming <;> rfl
  refine ⟨hanswer, ?_⟩
  let d := b.sentAs n s.nextTag destination properties body
  have hd (ds : List Delivery) (hds : ∀ x ∈ ds, x = d) : plainOf n ds = ds.map Delivery.plain :=
    plainOf_own fun x hx => by rw [hds x hx]; rfl
  have hsent : plainOf n (b.deliveries ++ [d]) = plainOf n b.deliveries ++ [d.plain] := by
    rw [plainOf_append, hd [d] fun _ => List.mem_singleton.1]
    rfl
  rcases transmit_cases b n destination properties body with
    ⟨fault, transmits, heq⟩ | ⟨s', transmits, hs', -, ⟨hon, ready, heq⟩ | ⟨hoff, heq⟩⟩
  · rw [heq] at hanswer
    cases hanswer
  · obtain rfl := Option.some.inj (hs.symm.trans hs')
    rw [heq, hon, if_pos rfl]
    refine Own.ext ?_ hsent rfl rfl
    refine (congrArg (Option.map Session.plain)
      (session?_updated (b := b) (f := Session.sent d) rfl n)).trans ?_
    rw [if_pos rfl, hs]
    rfl
  · obtain rfl := Option.some.inj (hs.symm.trans hs')
    rw [heq, hoff, if_neg Bool.false_ne_true]
    refine Own.ext (congrArg (Option.map Session.plain) (session?_congr rfl n)) hsent rfl
      (funext fun q => ?_)
    have hkept := hd ([d].filter fun d => d.destination = q) fun _ hx =>
      List.mem_singleton.1 (List.mem_of_mem_filter hx)
    change plainOf n ((Broker.store _ d).stored q)
      = plainOf n (b.stored q) ++ ([d].map Delivery.plain).filter _
    rw [stored_store, plainOf_append, hkept, List.filter_map]
    rfl

end Own

/-- A session that is used alone as far as it can tell: its script is blind, no limit is in force, and
the destinations that it declared exist as long as it is open. -/
structure Sole (declared : List String) (mode : Reporting) (n : Nat) (b : Broker) : Prop where
  session : ∃ s, b.session? n = some s ∧ Blind s.script
    ∧ (s.closed = false → ∀ q ∈ declared, b.queues.contains q = true)
  reporting : b.reporting = mode
  unlimited : b.limit = none
  ofItself : OfItself b

/-- The same belongs to session `n` of one broker and to session `n'` of another. -/
structure Matched (n n' : Nat) (b b' : Broker) (s s' : Session) : Prop where
  session : b.session? n = some s
  session' : b'.session? n' = some s'
  plain : s'.plain = s.plain
  own : b'.own n' = b.own n

namespace Matched

variable {n n' : Nat} {b b' : Broker} {s s' : Session} (h : Matched n n' b b' s s')

include h

theorem closed : s'.closed = s.closed := (congrArg Session.closed h.plain :)

theorem confirming : s'.confirming = s.confirming := (congrArg Session.confirming h.plain :)

theorem nextTag : s'.nextTag = s.nextTag := (congrArg Session.nextTag h.plain :)

theorem listener : s'.listener = s.listener := (congrArg Session.listener h.plain :)

theorem script : s'.script = s.script := (congrArg Session.script h.plain :)

theorem unconfirmed : s'.unconfirmed = s.unconfirmed := (congrArg Session.unconfirmed h.plain :)

theorem allConfirmed : b'.allConfirmed n' = b.allConfirmed n := by
  unfold Broker.allConfirmed
  rw [h.session, h.session', Option.map_some, Option.map_some, h.unconfirmed]

/-- A call that a closed session does not take leaves everything as it is. -/
theorem refuses (hclosed : s.closed = true) {α : Type} (call : Broker → Nat → Answer α)
    (answer : Except LinkFault α) (hcall : ∀ b n, b.openSession? n = .error .sessionClosed →
      call b n = .quiet answer b) :
    (call b' n').answer = (call b n).answer ∧ (call b' n').state.own n' = (call b n).state.own n := by
  rw [hcall b n (openSession?_closed h.session hclosed),
    hcall b' n' (openSession?_closed h.session' (h.closed.trans hclosed))]
  exact ⟨rfl, h.own⟩

theorem listen (l : Nat) : (b'.listen n' l).own n' = (b.listen n l).own n := by
  rw [own_listen h.session, own_listen h.session', h.own, h.plain]

theorem enableConfirms (hreporting : b'.reporting = b.reporting) :
    (b'.enableConfirms n').answer = (b.enableConfirms n).answer
      ∧ (b'.enableConfirms n').state.own n' = (b.enableConfirms n).state.own n := by
  cases hopen : s.closed with
  | true =>
    refine h.refuses hopen Broker.enableConfirms (.error .sessionClosed) fun b n hclosed => ?_
    unfold Broker.enableConfirms
    rw [hclosed]
  | false =>
    have hopen' := h.closed.trans hopen
    cases hoff : s.confirming with
    | true =>
      have on {b : Broker} {n : Nat} {s : Session} (hs : b.openSession? n = .ok s)
          (hon : s.confirming = true) : b.enableConfirms n = .quiet (.ok ()) b := by
        unfold Broker.enableConfirms
        rw [hs]
        simp only [hon, ↓reduceIte]
      rw [on (openSession?_of_session h.session hopen) hoff,
        on (openSession?_of_session h.session' hopen') (h.confirming.trans hoff)]
      exact ⟨rfl, h.own⟩
    | false =>
      have hoff' := h.confirming.trans hoff
      rw [own_enabled h.session hopen hoff, own_enabled h.session' hopen' hoff',
        enableConfirms_eq h.session hopen hoff, enableConfirms_eq h.session' hopen' hoff', h.own,
        h.plain, hreporting]
      exact ⟨rfl, rfl⟩

theorem declare (destination : String) :
    (b'.declare n' destination).answer = (b.declare n destination).answer
      ∧ (b'.declare n' destination).state.own n' = (b.declare n destination).state.own n := by
  cases hopen : s.closed with
  | true =>
    refine h.refuses hopen (fun b n => b.declare n destination) (.error .sessionClosed)
      fun b n hclosed => ?_
    unfold Broker.declare
    rw [hclosed]
  | false =>
    have kept (b : Broker) (n : Nat) : ({ b with
        queues := b.queues.insert destination (b.stored destination) } : Broker).own n = b.own n := by
      have hsession := session?_congr (b := b)
        (show ({ b with queues := b.queues.insert destination (b.stored destination) } :
          Broker).sessions = b.sessions from rfl) n
      refine (own_congr hsession rfl rfl fun q => ?_).2
      exact congrArg (plainOf n) (stored_declare b destination q)
    unfold Broker.declare
    rw [openSession?_of_session h.session hopen,
      openSession?_of_session h.session' (h.closed.trans hopen)]
    exact ⟨rfl, (kept b' n').trans (h.own.trans (kept b n).symm)⟩

theorem transmit (hblind : Blind s.script) (hlimit : b.limit = none) (hlimit' : b'.limit = none)
    {destination : String} (hknown : s.closed = false → b.queues.contains destination = true)
    (hknown' : s'.closed = false → b'.queues.contains destination = true) (properties : Properties)
    (body : ByteArray) :
    (b'.transmit n' destination properties body).answer
        = (b.transmit n destination properties body).answer
      ∧ (b'.transmit n' destination properties body).state.own n'
        = (b.transmit n destination properties body).state.own n := by
  cases hopen : s.closed with
  | true =>
    refine h.refuses hopen (fun b n => b.transmit n destination properties body)
      (.error .sessionClosed) fun b n hclosed => ?_
    unfold Broker.transmit
    rw [hclosed]
  | false =>
    have hopen' := h.closed.trans hopen
    have hblind' : Blind s'.script := h.script ▸ hblind
    obtain ⟨hanswer, hafter⟩ := transmit_known h.session hopen hlimit (hknown hopen) properties body
    obtain ⟨hanswer', hafter'⟩ :=
      transmit_known h.session' hopen' hlimit' (hknown' hopen') properties body
    rw [hanswer, hanswer', hafter, hafter', plain_sent hblind, plain_sent hblind', h.own, h.plain,
      h.confirming, h.nextTag]
    exact ⟨rfl, rfl⟩

theorem await : (b'.awaitConfirms n' .zero).answer = (b.awaitConfirms n .zero).answer
    ∧ (b'.awaitConfirms n' .zero).state.own n' = (b.awaitConfirms n .zero).state.own n := by
  cases hopen : s.closed with
  | true =>
    exact h.refuses hopen (fun b n => b.awaitConfirms n .zero) (.error .sessionClosed)
      fun b n hclosed => awaitConfirms_closed hclosed .zero
  | false =>
    have hs := openSession?_of_session h.session hopen
    have hs' := openSession?_of_session h.session' (h.closed.trans hopen)
    cases hon : s.confirming with
    | false =>
      rw [awaitConfirms_off hs hon, awaitConfirms_off hs' (h.confirming.trans hon)]
      exact ⟨rfl, h.own⟩
    | true =>
      have kept (b : Broker) (n : Nat) : ({ b with waits := b.waits + 1 } : Broker).own n = b.own n :=
        (own_congr (session?_congr rfl n) rfl rfl fun _ => rfl).2
      rw [awaitConfirms_zero hs hon, awaitConfirms_zero hs' (h.confirming.trans hon), h.allConfirmed]
      exact ⟨rfl, (kept b' n').trans (h.own.trans (kept b n).symm)⟩

theorem shut : (b'.shut n').own n' = (b.shut n).own n := by
  rw [own_shut h.session, own_shut h.session', h.own, h.plain]

theorem close : (b'.close n').answer = (b.close n).answer
    ∧ (b'.close n').state.own n' = (b.close n).state.own n := by
  cases hopen : s.closed with
  | true =>
    refine h.refuses hopen Broker.close (.error .sessionClosed) fun b n hclosed => ?_
    unfold Broker.close
    rw [hclosed]
  | false =>
    unfold Broker.close
    rw [openSession?_of_session h.session hopen,
      openSession?_of_session h.session' (h.closed.trans hopen)]
    exact ⟨rfl, h.shut⟩

theorem discard : (b'.discard n').answer = (b.discard n).answer
    ∧ (b'.discard n').state.own n' = (b.discard n).state.own n := by
  cases hopen : s.closed with
  | true =>
    refine h.refuses hopen Broker.discard (.ok ()) fun b n hclosed => ?_
    unfold Broker.discard
    rw [hclosed]
  | false =>
    unfold Broker.discard
    rw [openSession?_of_session h.session hopen,
      openSession?_of_session h.session' (h.closed.trans hopen)]
    exact ⟨rfl, h.shut⟩

theorem pass (hself : OfItself b) (hself' : OfItself b') (k : Nat) :
    heardOn n' (b'.passFirst k n').2 = heardOn n (b.passFirst k n).2
      ∧ (b'.passFirst k n').1.own n' = (b.passFirst k n).1.own n := by
  rw [own_passFirst_self hself h.session, own_passFirst_self hself' h.session', h.own, h.plain,
    passFirst_exact h.session, passFirst_exact h.session', ← told_plain s, ← told_plain s', h.plain,
    h.listener]
  exact ⟨heardOn_heardBy n' n s.listener _, rfl⟩

end Matched

theorem seen_returns {α : Type} {n n' : Nat} {r r' : Answer α}
    (f : Except LinkFault α → Response) (hquiet : r.events = []) (hquiet' : r'.events = [])
    (h : r'.answer = r.answer ∧ r'.state.own n' = r.state.own n) :
    (Deed.on.returns f r').seen n' = (Deed.on.returns f r).seen n := by
  unfold Deed.on.returns Upshot.seen
  rw [hquiet, hquiet', h.1, h.2]
  rfl

/-- What comes of a deed depends on what belongs to the session, and on nothing else. -/
theorem alike_deed {declared : List String} {mode : Reporting} {b b' : Broker} {n n' : Nat}
    (hn : Sole declared mode n b) (hn' : Sole declared mode n' b') (hown : b'.own n' = b.own n)
    {deed : Deed} (hsends : ∀ q ∈ deed.sendsTo, q ∈ declared) :
    (deed.on b' n').seen n' = (deed.on b n).seen n := by
  obtain ⟨s, hs, hblind, hknown⟩ := hn.session
  obtain ⟨s', hs', -, hknown'⟩ := hn'.session
  have h : Matched n n' b b' s s' := by
    have hsession := congrArg Own.session hown
    unfold own at hsession
    rw [hs, hs'] at hsession
    exact ⟨hs, hs', Option.some.inj hsession, hown⟩
  cases deed with
  | listen l => exact congrArg (·, [], Response.nothing) (h.listen l)
  | nextTag =>
    have hnext : b'.nextTag n' = b.nextTag n := by
      unfold Broker.nextTag
      rw [hs, hs', Option.map_some, Option.map_some, h.nextTag]
    exact congrArg₂ (fun o tag => (o, [], Response.recorded (some tag))) hown hnext
  | enableConfirms =>
    exact seen_returns _ (events_enableConfirms b n) (events_enableConfirms b' n')
      (h.enableConfirms (hn'.reporting.trans hn.reporting.symm))
  | declare destination =>
    exact seen_returns _ (events_declare b n _) (events_declare b' n' _) (h.declare destination)
  | transmit destination properties body =>
    have hmem := hsends destination (List.mem_singleton.2 rfl)
    exact seen_returns _ (events_transmit b n _ _ _) (events_transmit b' n' _ _ _)
      (h.transmit hblind hn.unlimited hn'.unlimited (fun hopen => hknown hopen _ hmem)
        (fun hopen => hknown' hopen _ hmem) properties body)
  | await =>
    exact seen_returns _ (events_awaitConfirms_zero b n) (events_awaitConfirms_zero b' n') h.await
  | close => exact seen_returns _ (events_close b n) (events_close b' n') h.close
  | discard => exact seen_returns _ (events_discard b n) (events_discard b' n') h.discard
  | pass k =>
    obtain ⟨hheard, hafter⟩ := h.pass hn.ofItself hn'.ofItself k
    exact congrArg₂ (·, ·, Response.nothing) hafter hheard

/-! ## Schedules -/

/-- What happens on a broker: something is done on session `n`, another session is opened, the script
for new sessions is changed, or time goes by. -/
inductive Happening where
  | done (n : Nat) (deed : Deed)
  | opens
  | rescript (script : Script)
  | clock (waits now : Nat) (ready : List Nat) (due : Dict Nat (List Nat))

namespace Happening

def on (b : Broker) : Happening → Upshot
  | .done n deed => deed.on b n
  | .opens => ⟨b.openSession.state, b.openSession.events, .nothing⟩
  | .rescript script => ⟨{ b with script }, [], .nothing⟩
  | .clock waits now ready due => ⟨{ b with waits, now, ready, due }, [], .nothing⟩

/-- No call runs: some session passes, or time goes by. -/
def Idle : Happening → Prop
  | .done _ (.pass _) | .clock .. => True
  | _ => False

/-- What of it is done on session `n`. -/
def deed? (n : Nat) : Happening → Option Deed
  | .done m deed => if m = n then some deed else none
  | _ => none

theorem deed?_done (n : Nat) (deed : Deed) : (done n deed).deed? n = some deed := if_pos rfl

theorem eq_done {a : Happening} {n : Nat} {deed : Deed} (h : a.deed? n = some deed) :
    a = .done n deed := by
  cases a with
  | done m d =>
    change (if m = n then some d else none) = some deed at h
    split_ifs at h with hm
    rw [hm, Option.some.inj h]
  | _ => cases h

end Happening

/-- How many messages of a session are not answered for. -/
def unconfirmedOn (b : Broker) (n : Nat) : Nat := ((b.session? n).map Session.unconfirmed).getD 0

/-- What came of a schedule: the broker, what was heard, and of everything done on one session what came
back and how many messages were unconfirmed then. -/
structure Account where
  broker : Broker
  heard : List Heard
  returned : List (Response × Nat)

def run (n : Nat) : List Happening → Broker → Account
  | [], b => ⟨b, [], []⟩
  | a :: acts, b =>
    let u := a.on b
    let r := run n acts u.broker
    let returned := (a.deed? n).map fun _ => (u.response, u.broker.unconfirmedOn n)
    ⟨r.broker, u.heard ++ r.heard, returned.toList ++ r.returned⟩

theorem interlude_run {b b' : Broker} {heard : List Heard} (h : Interlude b heard b') (n : Nat) :
    ∃ acts, (∀ a ∈ acts, a.Idle) ∧ (run n acts b).broker = b' ∧ (run n acts b).heard = heard := by
  induction h with
  | nothing => exact ⟨[], fun _ ha => absurd ha List.not_mem_nil, rfl, rfl⟩
  | clock waits now ready due _ ih =>
    obtain ⟨acts, hidle, hend, hheard⟩ := ih
    exact ⟨.clock waits now ready due :: acts, List.forall_mem_cons.2 ⟨trivial, hidle⟩, hend, hheard⟩
  | pass k m _ ih =>
    obtain ⟨acts, hidle, hend, hheard⟩ := ih
    exact ⟨.done m (.pass k) :: acts, List.forall_mem_cons.2 ⟨trivial, hidle⟩, hend,
      congrArg _ hheard⟩

/-- A wait of any length is a schedule in which no call runs, and what is done at its end (`Deed.await`)
comes back with its answer. -/
theorem awaitConfirms_run (b : Broker) (n : Nat) (timeout : Span) :
    let r := b.awaitConfirms n timeout
    ∃ acts, (∀ a ∈ acts, a.Idle) ∧ (run n acts b).broker = r.state
      ∧ (run n acts b).heard = r.events ∧ (Deed.await.on r.state n).response = .awaited r.answer := by
  obtain ⟨acts, hidle, hend, hheard⟩ := interlude_run (interlude_awaitConfirms b n timeout) n
  exact ⟨acts, hidle, hend, hheard, congrArg Response.awaited (answer_awaitConfirms b n timeout).symm⟩

section Run

variable {declared : List String} {mode : Reporting} {b b' : Broker} {n n' : Nat}

theorem run_aside {a : Happening} (ha : a.deed? n = none) (acts : List Happening) (b : Broker) :
    run n (a :: acts) b = { run n acts (a.on b).broker with
      heard := (a.on b).heard ++ (run n acts (a.on b).broker).heard } := by
  rw [run, ha]
  rfl

theorem run_done (deed : Deed) (acts : List Happening) (b : Broker) :
    let u := deed.on b n
    let r := run n acts u.broker
    run n (.done n deed :: acts) b
      = ⟨r.broker, u.heard ++ r.heard, (u.response, u.broker.unconfirmedOn n) :: r.returned⟩ := by
  rw [run, Happening.deed?_done]
  rfl

theorem unconfirmedOn_own (b : Broker) (n : Nat) :
    b.unconfirmedOn n = ((b.own n).session.map Session.unconfirmed).getD 0 := by
  unfold unconfirmedOn own
  rw [Option.map_map]
  rfl

theorem contains_declares {s : Session} {deed : Deed} {q : String} (hs : b.openSession? n = .ok s)
    (hq : q ∈ deed.declares) : (deed.on b n).broker.queues.contains q = true := by
  cases deed with
  | declare destination =>
    obtain rfl := List.mem_singleton.1 hq
    unfold Deed.on Deed.on.returns Broker.declare
    rw [hs]
    exact (Dict.contains_insert ..).trans (by rw [decide_eq_true rfl, Bool.true_or])
  | _ => exact absurd hq List.not_mem_nil

theorem Sole.deed (h : Sole declared mode n b) (deed : Deed) :
    Sole (deed.declares ++ declared) mode n (deed.on b n).broker := by
  obtain ⟨s, hs, hblind, hknown⟩ := h.session
  have heffect := effect_deed b n deed
  have hlasts := heffect.lasts
  obtain ⟨s', hs', hscript, hopened⟩ := heffect.session_self hs
  refine ⟨⟨s', hs', hscript ▸ hblind, fun hopen q hq => ?_⟩, hlasts.reporting.trans h.reporting,
    hlasts.limit.trans h.unlimited, hlasts.ofItself h.ofItself⟩
  rcases List.mem_append.1 hq with hq | hq
  · exact contains_declares (openSession?_of_session hs (hopened hopen)) hq
  · exact hlasts.contains q (hknown (hopened hopen) q hq)

theorem Sole.aside (h : Sole declared mode n b) (hsession : b'.session? n = b.session? n)
    (hlasts : Lasts b b') : Sole declared mode n b' := by
  obtain ⟨s, hs, hblind, hknown⟩ := h.session
  exact ⟨⟨s, hsession.trans hs, hblind, fun hopen q hq => hlasts.contains q (hknown hopen q hq)⟩,
    hlasts.reporting.trans h.reporting, hlasts.limit.trans h.unlimited, hlasts.ofItself h.ofItself⟩

theorem lasts_openSession (b : Broker) : Lasts b b.openSession.state := by
  have hself : OfItself b → OfItself b.openSession.state := OfItself.openSession
  rcases openSession_cases b with ⟨-, heq⟩ | ⟨-, heq⟩
  · rw [heq]
    exact ⟨rfl, rfl, Nat.le_refl _, fun _ h => h, id⟩
  · rw [heq] at hself ⊢
    exact ⟨rfl, rfl, (opened_push b _).ge.trans' (Nat.le_succ _), fun _ h => h, hself⟩

theorem own_openSession (b : Broker) (hn : n ≠ b.opened + 1) :
    b.openSession.state.session? n = b.session? n ∧ b.openSession.state.own n = b.own n := by
  rcases openSession_cases b with ⟨-, heq⟩ | ⟨-, heq⟩
  · rw [heq]
    exact ⟨rfl, rfl⟩
  · rw [heq]
    exact own_congr ((session?_push b _ n).trans (if_neg hn)) rfl rfl fun _ => rfl

/-- What is not done on a session leaves alone what belongs to it. -/
theorem own_aside {a : Happening} (ha : a.deed? n = none) (hself : OfItself b) (hn : n ≤ b.opened) :
    ((a.on b).broker.session? n = b.session? n ∧ (a.on b).broker.own n = b.own n)
      ∧ heardOn n (a.on b).heard = [] ∧ Lasts b (a.on b).broker := by
  cases a with
  | done m deed =>
    have heffect := effect_deed b m deed
    have hne : m ≠ n := fun heq => by
      rw [Happening.deed?, if_pos heq] at ha
      cases ha
    obtain ⟨hown, hheard⟩ := heffect.own_other hself fun heq => absurd heq hne
    exact ⟨hown, hheard, heffect.lasts⟩
  | opens =>
    refine ⟨own_openSession b (Nat.ne_of_lt (Nat.lt_succ_of_le hn)), ?_, lasts_openSession b⟩
    change heardOn n b.openSession.events = []
    rw [events_openSession]
    rfl
  | rescript script =>
    exact ⟨own_congr (session?_congr rfl n) rfl rfl fun _ => rfl, rfl, rfl, rfl, Nat.le_refl _,
      fun _ h => h, fun h => h⟩
  | clock waits now ready due =>
    exact ⟨own_congr (session?_congr rfl n) rfl rfl fun _ => rfl, rfl, rfl, rfl, Nat.le_refl _,
      fun _ h => h, fun h => h⟩

/-- Two sessions to which the same belongs and on which the same is done, each whatever happens around
it, come to the same end. -/
theorem alike_run : ∀ (acts : List Happening) {declared : List String} {b b' : Broker},
    Sole declared mode n b → Sole declared mode n' b' → b'.own n' = b.own n →
    DeclaresFirst declared (acts.filterMap (Happening.deed? n')) →
    let alone := run n ((acts.filterMap (Happening.deed? n')).map (.done n)) b
    let among := run n' acts b'
    among.broker.own n' = alone.broker.own n ∧ heardOn n' among.heard = heardOn n alone.heard
      ∧ among.returned = alone.returned
  | [], _, _, _, _, _, hown, _ => ⟨hown, rfl, rfl⟩
  | a :: acts, declared, b, b', hn, hn', hown, hdeclares => by
    -- what is done elsewhere the other schedule leaves out; what is done on the session both have
    cases ha : a.deed? n' with
    | none =>
      have hopened := (lt_of_session? hn'.session.choose_spec.1).2
      obtain ⟨⟨hsession, hafter⟩, hheard, hlasts⟩ := own_aside ha hn'.ofItself hopened
      rw [List.filterMap_cons_none ha] at hdeclares
      obtain ⟨hend, hmore, hreturned⟩ :=
        alike_run acts hn (hn'.aside hsession hlasts) (hafter.trans hown) hdeclares
      rw [List.filterMap_cons_none ha, run_aside ha]
      refine ⟨hend, ?_, hreturned⟩
      rw [heardOn_append, hheard, hmore]
      rfl
    | some deed =>
      obtain rfl := Happening.eq_done ha
      rw [List.filterMap_cons_some ha] at hdeclares
      obtain ⟨hsends, hdeclares⟩ := hdeclares
      have hseen := alike_deed hn hn' hown hsends
      have hafter : (deed.on b' n').broker.own n' = (deed.on b n).broker.own n :=
        congrArg Prod.fst hseen
      have hheard : heardOn n' (deed.on b' n').heard = heardOn n (deed.on b n).heard :=
        congrArg (fun x => x.2.1) hseen
      have hresponse : (deed.on b' n').response = (deed.on b n).response :=
        congrArg (fun x => x.2.2) hseen
      obtain ⟨hend, hmore, hreturned⟩ := alike_run acts (hn.deed deed) (hn'.deed deed) hafter hdeclares
      rw [List.filterMap_cons_some ha, List.map_cons, run_done, run_done]
      refine ⟨hend, ?_, ?_⟩
      · rw [heardOn_append, heardOn_append, hheard, hmore]
      · rw [hresponse, unconfirmedOn_own, unconfirmedOn_own, hafter, hreturned]

end Run

/-! ## From the opening of a session -/

section Opening

variable {b b' : Broker} {n : Nat}

theorem session?_of_opened_lt (h : b.opened < n) : b.session? n = none := by
  rcases hs : b.session? n with _ | s
  · rfl
  · exact absurd (lt_of_session? hs).2 (Nat.not_le_of_lt h)

/-- Passes leave alone what belongs to a session that is not there. -/
theorem Interlude.own_absent {heard : List Heard} (h : Interlude b heard b') :
    OfItself b → b.session? n = none → b'.own n = b.own n := by
  induction h with
  | nothing => exact fun _ _ => rfl
  | @clock b _ _ waits now ready due _ ih =>
    intro hself hnone
    have hsame : ({ b with waits, now, ready, due } : Broker).session? n = b.session? n
        ∧ ({ b with waits, now, ready, due } : Broker).own n = b.own n :=
      own_congr (session?_congr rfl n) rfl rfl fun _ => rfl
    exact (ih hself (hsame.1.trans hnone)).trans hsame.2
  | @pass b _ _ k m _ ih =>
    intro hself hnone
    have heffect : Effect m b (b.passFirst k m).1 (b.passFirst k m).2 := .passes k
    obtain ⟨⟨hsession, hown⟩, -⟩ := heffect.own_other hself fun heq => heq ▸ hnone
    exact (ih (heffect.lasts.ofItself hself) (hsession.trans hnone)).trans hown

/-- Nothing belongs to a session that was not opened yet. -/
theorem own_of_reachable (h : Reachable (fun b b' => ∃ heard, Interlude b heard b') b) :
    b.opened < n → b.own n = ⟨none, [], [], fun _ => []⟩ := by
  -- all calls go one way: what is done on whichever session leaves alone one that is not there
  have done {b : Broker} (h : Reachable (fun b b' => ∃ heard, Interlude b heard b') b)
      (ih : b.opened < n → b.own n = ⟨none, [], [], fun _ => []⟩) (m : Nat) (deed : Deed)
      (hn : (deed.on b m).broker.opened < n) :
      (deed.on b m).broker.own n = ⟨none, [], [], fun _ => []⟩ := by
    have heffect := effect_deed b m deed
    have hn := Nat.lt_of_le_of_lt heffect.lasts.opened hn
    have hself := ofItself_of_reachable (fun _ _ h => h) h
    exact (heffect.own_other hself fun heq => heq ▸ session?_of_opened_lt hn).1.2.trans (ih hn)
  induction h with
  | start =>
    exact fun hn => Own.ext (congrArg (Option.map Session.plain) (session?_of_opened_lt hn)) rfl rfl rfl
  | configured script reporting delay limit disconnected _ ih =>
    exact fun hn => (own_congr (session?_congr rfl n) rfl rfl fun _ => rfl).2.trans (ih hn)
  | @openSession b _ ih =>
    intro hn
    rcases openSession_cases b with ⟨-, heq⟩ | ⟨-, heq⟩
    · rw [heq] at hn ⊢
      exact ih hn
    · have hlt : b.opened + 1 < n := by
        rwa [heq, opened_push] at hn
      exact (own_openSession b (Nat.ne_of_gt hlt)).2.trans (ih (Nat.lt_of_succ_lt hlt))
  | listen m l h ih => exact done h ih m (.listen l)
  | enableConfirms m h ih => exact done h ih m .enableConfirms
  | declare m destination h ih => exact done h ih m (.declare destination)
  | transmit m destination properties body h ih =>
    exact done h ih m (.transmit destination properties body)
  | close m h ih => exact done h ih m .close
  | discard m h ih => exact done h ih m .discard
  | @idle b b' h hidle ih =>
    intro hn
    obtain ⟨heard, hinter⟩ := hidle
    have hn : b.opened < n := Nat.lt_of_le_of_lt (congrArg Ledger.opened hinter.ledger).ge hn
    have hself := ofItself_of_reachable (fun _ _ h => h) h
    exact (hinter.own_absent hself (session?_of_opened_lt hn)).trans (ih hn)

theorem own_opened (h : Reachable (fun b b' => ∃ heard, Interlude b heard b') b)
    (hopened : b.openSession.answer = .ok n) :
    b.openSession.state.own n = ⟨some (.opened b.script), [], [], fun _ => []⟩ := by
  have hnew := session?_openSession hopened
  obtain ⟨rfl, hstate⟩ := openSession_ok hopened
  rw [hstate] at hnew ⊢
  have hnone : b.own (b.opened + 1) = ⟨none, [], [], fun _ => []⟩ :=
    own_of_reachable h (Nat.lt_succ_self _)
  have hsent : plainOf (b.opened + 1) b.deliveries = [] := congrArg Own.sent hnone
  have hanswers : b.answers (b.opened + 1) = [] := congrArg Own.answers hnone
  have hkept : (fun q => plainOf (b.opened + 1) (b.stored q)) = fun _ => [] :=
    congrArg Own.kept hnone
  exact Own.ext (congrArg (Option.map Session.plain) hnew) hsent hanswers hkept

theorem sole_opened (h : Reachable (fun b b' => ∃ heard, Interlude b heard b') b)
    (hopened : b.openSession.answer = .ok n) (hblind : Blind b.script) (hlimit : b.limit = none) :
    Sole [] b.reporting n b.openSession.state := by
  have hlasts := lasts_openSession b
  exact ⟨⟨.opened b.script, session?_openSession hopened, hblind,
    fun _ q hq => absurd hq List.not_mem_nil⟩, hlasts.reporting, hlasts.limit.trans hlimit,
    hlasts.ofItself (ofItself_of_reachable (fun _ _ h => h) h)⟩

end Opening

/-- What is seen of a session that is used on a broker, whatever happens there apart from it, is what is
seen when nothing else happens, be it on that broker or on another one that is set up alike. -/
theorem undisturbed {x y : Broker} {n n' : Nat}
    (hx : Reachable (fun b b' => ∃ heard, Interlude b heard b') x)
    (hy : Reachable (fun b b' => ∃ heard, Interlude b heard b') y)
    (hn : x.openSession.answer = .ok n) (hn' : y.openSession.answer = .ok n')
    (hlimit : x.limit = none) (hlimit' : y.limit = none) (hscript : y.script = x.script)
    (hreporting : y.reporting = x.reporting) (hblind : Blind x.script) (acts : List Happening)
    (hdeclares : DeclaresFirst [] (acts.filterMap (Happening.deed? n'))) :
    let alone := run n ((acts.filterMap (Happening.deed? n')).map (.done n)) x.openSession.state
    let among := run n' acts y.openSession.state
    among.returned = alone.returned
      ∧ heardOn n' among.heard = heardOn n alone.heard
      ∧ among.broker.answers n' = alone.broker.answers n
      ∧ plainOf n' among.broker.deliveries = plainOf n alone.broker.deliveries
      ∧ ∀ q, plainOf n' (among.broker.stored q) = plainOf n (alone.broker.stored q) := by
  intro alone among
  have hsole := sole_opened hx hn hblind hlimit
  have hsole' := sole_opened hy hn' (hscript ▸ hblind) hlimit'
  rw [hreporting] at hsole'
  have hown : y.openSession.state.own n' = x.openSession.state.own n := by
    rw [own_opened hx hn, own_opened hy hn', hscript]
  obtain ⟨hend, hheard, hreturned⟩ := alike_run acts hsole hsole' hown hdeclares
  exact ⟨hreturned, hheard, congrArg Own.answers hend, congrArg Own.sent hend,
    congrFun (congrArg Own.kept hend)⟩

/-- It refuses the second message of a session. -/
def picky : Broker :=
  { start with script := fun d => if d.tag = 2 then .nack else .ack, reporting := .cumulative }

/-- The same broker, in use: the confirms of a first session are on, and there is a destination. -/
def busy : Broker := ((picky.openSession.state.enableConfirms 1).state.declare 1 "far").state

/-- The second session on a broker in use sends three messages, one of which the first session sends
too. Meanwhile the script for new sessions is changed, a third session comes and goes, and the first one
sends, passes and is closed. -/
theorem undisturbed_busy :
    let hello : Properties := ⟨true, "text", "Hello", 1, ∅⟩
    let acts : List Happening := [
      .done 2 .enableConfirms, .done 1 (.transmit "far" hello .empty), .done 2 (.declare "near"),
      .opens, .done 2 (.listen 7), .rescript .withholdAll, .done 2 (.transmit "near" hello .empty),
      .done 1 (.pass 1), .done 2 (.transmit "near" hello .empty), .done 3 (.transmit "far" hello .empty),
      .done 2 .await, .done 2 (.pass 2), .done 1 .close, .done 2 .await,
      .done 2 (.transmit "near" hello .empty), .done 3 .discard, .done 2 .nextTag, .done 2 .close,
      .done 2 (.pass 1), .done 2 .await]
    let among := run 2 acts busy.openSession.state
    heardOn 2 among.heard = [(7, ⟨⟨1, false⟩, .acked⟩), (7, ⟨⟨2, false⟩, .nacked⟩)]
      ∧ among.returned.map Prod.snd = [0, 0, 0, 1, 2, 2, 0, 0, 1, 1, 1, 1, 1]
      ∧ among.broker.answers 2 = [⟨⟨1, false⟩, .acked⟩, ⟨⟨2, false⟩, .nacked⟩]
      ∧ (plainOf 2 among.broker.deliveries).map Delivery.tag = [1, 2, 3]
      ∧ (plainOf 2 (among.broker.stored "near")).map Delivery.tag = [1] := by
  intro hello acts
  have hpicky : Reachable (fun b b' => ∃ heard, Interlude b heard b') picky :=
    .configured picky.script .cumulative .zero none false .start
  have hbusy : Reachable (fun b b' => ∃ heard, Interlude b heard b') busy :=
    .declare 1 "far" (.enableConfirms 1 (.openSession hpicky))
  have hn : picky.openSession.answer = .ok 1 := rfl
  have hn' : busy.openSession.answer = .ok 2 := rfl
  have hdeclares : DeclaresFirst [] (acts.filterMap (Happening.deed? 2)) := by decide +kernel
  have hsame := undisturbed hpicky hbusy hn hn' rfl rfl rfl rfl (fun _ => rfl) acts hdeclares
  let alone := run 1 ((acts.filterMap (Happening.deed? 2)).map (.done 1)) picky.openSession.state
  have hheard : heardOn 1 alone.heard = [(7, ⟨⟨1, false⟩, .acked⟩), (7, ⟨⟨2, false⟩, .nacked⟩)] := by
    decide +kernel
  have hcounts : alone.returned.map Prod.snd = [0, 0, 0, 1, 2, 2, 0, 0, 1, 1, 1, 1, 1] := by
    decide +kernel
  have hanswers : alone.broker.answers 1 = [⟨⟨1, false⟩, .acked⟩, ⟨⟨2, false⟩, .nacked⟩] := by
    decide +kernel
  have hsent : (plainOf 1 alone.broker.deliveries).map Delivery.tag = [1, 2, 3] := by decide +kernel
  have hkept : (plainOf 1 (alone.broker.stored "near")).map Delivery.tag = [1] := by decide +kernel
  generalize run 2 acts busy.openSession.state = among at hsame ⊢
  change among.returned = alone.returned ∧ _ = heardOn 1 alone.heard ∧ _ = alone.broker.answers 1
    ∧ _ = plainOf 1 alone.broker.deliveries
    ∧ ∀ q, _ = plainOf 1 (alone.broker.stored q) at hsame
  obtain ⟨hreturned', hheard', hanswers', hsent', hstored⟩ := hsame
  exact ⟨hheard'.trans hheard, (congrArg (List.map Prod.snd) hreturned').trans hcounts,
    hanswers'.trans hanswers, (congrArg (List.map Delivery.tag) hsent').trans hsent,
    (congrArg (List.map Delivery.tag) (hstored "near")).trans hkept⟩

end ConfirmedDelivery.Broker
