import ConfirmedDelivery.Proofs.Broker.Passes

/-!
# Any schedule of passes

Nothing says when the sessions of a broker pass. Between two calls some of them may pass, each of
them taking in some of what was sent on it (`Interlude`); and the clock and the order in which
sessions are to pass may be anything. A link serves a broker (`Serves`) if its calls are calls on
the broker with such interludes before and after them. The link to a broker in memory, whose
sessions pass only while somebody waits, is one of them (`Client.serves`).
-/

namespace ConfirmedDelivery.Broker

/-- What may happen on a broker while no call runs, and what is heard of it. -/
inductive Interlude : Broker → List Heard → Broker → Prop where
  | nothing (b : Broker) : Interlude b [] b
  | clock {b b' : Broker} {heard : List Heard} (waits now : Nat) (ready : List Nat)
    (due : Dict Nat (List Nat)) :
    Interlude { b with waits, now, ready, due } heard b' → Interlude b heard b'
  | pass {b b' : Broker} {heard : List Heard} (k n : Nat) :
    Interlude (b.passFirst k n).1 heard b' → Interlude b ((b.passFirst k n).2 ++ heard) b'

theorem Interlude.trans {b b' b'' : Broker} {heard more : List Heard} (h : Interlude b heard b')
    (h' : Interlude b' more b'') : Interlude b (heard ++ more) b'' := by
  induction h with
  | nothing => exact h'
  | clock waits now ready due _ ih => exact .clock waits now ready due (ih h')
  | pass k n _ ih =>
    rw [List.append_assoc]
    exact .pass k n (ih h')

/-- Interludes one after another, as long as somebody waits. -/
def Interludes : Broker → Lull Heard Broker → Prop
  | b, .timeUp heard b' => Interlude b heard b'
  | b, .stir heard b' next => Interlude b heard b' ∧ Interludes b' next

section Waiting

theorem interlude_pass (b : Broker) (n : Nat) : Interlude b (b.pass n).2 (b.pass n).1 := by
  have h := Interlude.pass (b.queued n) n (.nothing (b.pass n).1)
  rwa [List.append_nil] at h

theorem interlude_passAll : ∀ (ns : List Nat) (b : Broker),
    Interlude b (passAll ns b).2 (passAll ns b).1
  | [], b => .nothing b
  | n :: ns, b => (interlude_pass b n).trans (interlude_passAll ns (b.pass n).1)

theorem interlude_beginPass (b : Broker) (n : Nat) :
    Interlude b (b.beginPass n).2 (b.beginPass n).1 := by
  unfold beginPass
  cases b.session? n with
  | none => exact .nothing b
  | some s =>
    dsimp only
    split_ifs
    · exact .nothing b
    · exact interlude_pass b n
    · exact .clock _ _ _ _ (.nothing _)

theorem interlude_beginAll : ∀ (ns : List Nat) (b : Broker),
    Interlude b (beginAll ns b).2 (beginAll ns b).1
  | [], b => .nothing b
  | n :: ns, b => (interlude_beginPass b n).trans (interlude_beginAll ns (b.beginPass n).1)

theorem interlude_runReady (b : Broker) : Interlude b b.runReady.2 b.runReady.1 := by
  unfold runReady
  dsimp only
  refine Interlude.clock b.waits b.now b.ready
    (b.due.keep fun time _ => decide (b.now < time)) ?_
  exact (interlude_passAll _ _).trans (.clock _ _ [] _ (interlude_beginAll _ _))

theorem interludes_lullUntil (deadline : Nat) : ∀ (times : List (Nat × List Nat)) (b : Broker),
    Interludes b (lullUntil deadline times b)
  | [], b => .clock b.waits deadline b.ready b.due (.nothing _)
  | (time, ns) :: times, b => by
    unfold lullUntil
    split_ifs
    · exact .clock b.waits deadline b.ready b.due (.nothing _)
    · refine ⟨.clock b.waits time b.ready (b.due.keep fun t _ => decide (time < t)) ?_, ?_⟩
      · exact interlude_passAll ns _
      · exact interludes_lullUntil deadline times _

theorem interludes_lull (b : Broker) (timeout : Span) : Interludes b (b.lull timeout) := by
  unfold lull
  dsimp only
  split_ifs
  · exact .nothing b
  · exact ⟨interlude_runReady b, interludes_lullUntil _ _ _⟩

theorem interlude_watch (done : List Heard × Broker → Bool) :
    ∀ (lull : Lull Heard Broker) (b : Broker) (before : List Heard), Interludes b lull →
      ∃ heard,
        (lull.watch (fun a heard b => (a.1 ++ heard, b)) done (before, b)).2.1 = before ++ heard
        ∧ Interlude b heard
          (lull.watch (fun a heard b => (a.1 ++ heard, b)) done (before, b)).2.2
  | .timeUp heard _, _, _, h => ⟨heard, rfl, h⟩
  | .stir heard b' next, b, before, ⟨h, hnext⟩ => by
    unfold Lull.watch
    dsimp only
    split_ifs
    · exact ⟨heard, rfl, h⟩
    · obtain ⟨more, hheard, hmore⟩ := interlude_watch done next b' (before ++ heard) hnext
      exact ⟨heard ++ more, by rw [hheard, List.append_assoc], h.trans hmore⟩

theorem interlude_toEnd : ∀ (lull : Lull Heard Broker) (b : Broker), Interludes b lull →
    Interlude b lull.toEnd.1 lull.toEnd.2
  | .timeUp _ _, _, h => h
  | .stir _ b' next, _, ⟨h, hnext⟩ => h.trans (interlude_toEnd next b' hnext)

theorem interlude_awaitConfirms (b : Broker) (n : Nat) (timeout : Span) :
    Interlude b (b.awaitConfirms n timeout).events (b.awaitConfirms n timeout).state := by
  unfold awaitConfirms
  cases b.openSession? n with
  | error fault => exact .nothing b
  | ok s =>
    dsimp only
    split_ifs
    · exact .nothing b
    · exact .clock (b.waits + 1) b.now b.ready b.due (.nothing _)
    · have hlull := interludes_lull { b with waits := b.waits + 1 } timeout
      obtain ⟨heard, hheard, h⟩ := interlude_watch (fun a => a.2.allConfirmed n) _ _ [] hlull
      rw [List.nil_append] at hheard
      refine .clock (b.waits + 1) b.now b.ready b.due ?_
      dsimp only
      rw [hheard]
      exact h

theorem interlude_sleep (b : Broker) (time : Span) :
    Interlude b (b.sleep time).events (b.sleep time).state :=
  interlude_toEnd _ b (interludes_lull b time)

end Waiting

section Serves

variable {σ α : Type}

/-- A call on the session in use, with interludes before and after it. -/
def Calls (view : σ → Client) (s : σ) (op : Broker → Nat → Answer α)
    (reply : Reply Confirm σ α) : Prop :=
  ∃ b heard heard', Interlude (view s).broker heard b
    ∧ reply.answer = (op b (view s).session).answer
    ∧ Interlude (op b (view s).session).state heard' (view reply.state).broker
    ∧ (view reply.state).session = (view s).session
    ∧ reply.events = Client.confirmsOf (view s).session (heard ++ heard')

/-- Waiting while interludes happen, and nothing else. -/
def Waits (view : σ → Client) (s : σ) (events : List Confirm) (s' : σ) : Prop :=
  ∃ heard, Interlude (view s).broker heard (view s').broker
    ∧ (view s').session = (view s).session
    ∧ events = Client.confirmsOf (view s).session heard

/-- A lull in which interludes happen, and nothing else. -/
def Idles (view : σ → Client) : σ → Lull Confirm σ → Prop
  | s, .timeUp events s' => Waits view s events s'
  | s, .stir events s' next => Waits view s events s' ∧ Idles view s' next

/-- A link whose calls are calls on a broker, with passes at any time. Whether a wait for confirms
was long enough, and what its answer is, it may decide itself. -/
structure Serves (view : σ → Client) (link : Link σ) : Prop where
  openSession : ∀ s, ∃ b heard heard', Interlude (view s).broker heard b
    ∧ (link.openSession s).answer = b.openSession.answer.map (fun _ => ())
    ∧ Interlude b.openSession.state heard' (view (link.openSession s).state).broker
    ∧ ∀ n, b.openSession.answer = .ok n → (view (link.openSession s).state).session = n
  listen : ∀ s, ∃ l, view (link.listen s)
    = ⟨(view s).broker.listen (view s).session l, (view s).session⟩
  enableConfirms : ∀ s, Calls view s Broker.enableConfirms (link.enableConfirms s)
  nextTag : ∀ s, link.nextTag s = (view s).broker.nextTag (view s).session
  declare : ∀ destination s,
    Calls view s (fun b n => b.declare n destination) (link.declare destination s)
  transmit : ∀ destination properties body s,
    Calls view s (fun b n => b.transmit n destination properties body)
      (link.transmit destination properties body s)
  awaitConfirms : ∀ timeout s,
    Waits view s (link.awaitConfirms timeout s).events (link.awaitConfirms timeout s).state
  lull : ∀ timeout s, Idles view s (link.lull timeout s)
  close : ∀ s, Calls view s Broker.close (link.close s)

theorem calls_of_client {op : Broker → Nat → Answer α} {c : Client}
    (hevents : (op c.broker c.session).events = []) : Calls id c op (c.call op) := by
  refine ⟨c.broker, [], [], .nothing _, ?_, .nothing _, rfl, ?_⟩
  · change (op c.broker c.session).answer.map id = (op c.broker c.session).answer
    cases (op c.broker c.session).answer <;> rfl
  · unfold Client.call Reply.map
    rw [hevents]
    rfl

theorem idles_of_interludes (session : Nat) : ∀ (lull : Lull Heard Broker) (b : Broker),
    Interludes b lull → Idles id (⟨b, session⟩ : Client)
      (lull.map (fun heard _ => Client.confirmsOf session heard) (⟨·, session⟩))
  | .timeUp heard _, _, h => ⟨heard, h, rfl, rfl⟩
  | .stir heard b' next, _, ⟨h, hnext⟩ =>
    ⟨⟨heard, h, rfl, rfl⟩, idles_of_interludes session next b' hnext⟩

section Quiet

variable (b : Broker) (n : Nat)

theorem events_openSession : b.openSession.events = [] := by
  unfold Broker.openSession
  split_ifs <;> rfl

theorem events_enableConfirms : (b.enableConfirms n).events = [] := by
  unfold enableConfirms
  split
  · rfl
  · split_ifs <;> rfl

theorem events_declare (destination : String) : (b.declare n destination).events = [] := by
  unfold declare
  split <;> rfl

theorem events_transmit (destination : String) (properties : Properties) (body : ByteArray) :
    (b.transmit n destination properties body).events = [] := by
  unfold transmit
  split
  · rfl
  · dsimp only
    split_ifs <;> rfl

theorem events_close : (b.close n).events = [] := by
  unfold Broker.close
  split <;> rfl

theorem events_discard : (b.discard n).events = [] := by
  unfold Broker.discard
  split <;> rfl

end Quiet

/-- The link to a broker in memory has its sessions pass only while somebody waits. -/
theorem Client.serves : Serves id Client.link where
  openSession c := by
    refine ⟨c.broker, [], [], .nothing _, rfl, .nothing _, fun n hn => ?_⟩
    unfold Client.link Client.openSession
    dsimp only [id, Reply.map]
    rw [hn]
  listen c := ⟨0, rfl⟩
  enableConfirms c := calls_of_client (events_enableConfirms _ _)
  nextTag _ := rfl
  declare destination c := calls_of_client (events_declare _ _ destination)
  transmit destination properties body c :=
    calls_of_client (events_transmit _ _ destination properties body)
  awaitConfirms timeout c := ⟨_, interlude_awaitConfirms c.broker c.session timeout, rfl, rfl⟩
  lull timeout c := idles_of_interludes c.session _ c.broker (interludes_lull c.broker timeout)
  close c := calls_of_client (events_close _ _)

end Serves

end ConfirmedDelivery.Broker
