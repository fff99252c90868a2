import ConfirmedDelivery.Proofs.Broker.Storage
import ConfirmedDelivery.Proofs.Publisher

/-!
# Exactly once, or at most once

Over a broker in memory, whatever its script, its way to report and the schedule of its passes, a
call that comes back with a report has had every message kept exactly once, and any other call has
had it kept at most once; nothing is kept that the script does not accept (`publishAll_stores`).
-/

namespace ConfirmedDelivery.Broker

variable {σ α : Type} {view : σ → Client} {link : Link σ}

/-- What interludes do not change, seen from the session `n`. -/
def Stable (n : Nat) (P : Broker → Books Message → Prop) : Prop :=
  ∀ b b' heard books, P b books → Interlude b heard b' →
    P b' (books.handleAll (Client.confirmsOf n heard))

/-- A call on a link does what it does on the broker, but for what interludes change; and it fails
as it fails there. -/
theorem ends_of_calls_fault {s : σ} {n : Nat} {op : Broker → Nat → Answer α}
    {reply : Reply Confirm σ α} {P : Broker → Books Message → Prop}
    {F : LinkFault → Broker → Books Message → Prop}
    {Q : α → Broker → Books Message → Prop} {books : Books Message}
    (hcalls : Calls view s op reply) (hn : (view s).session = n) (hP : Stable n P)
    (hQ : ∀ a, Stable n (Q a)) (hF : ∀ fault, Stable n (F fault)) (h : P (view s).broker books)
    (hop : ∀ b books, P b books → match (op b n).answer with
      | .ok a => Q a (op b n).state books
      | .error fault => F fault (op b n).state books) :
    reply.Ends books (fun a s' books => (view s').session = n ∧ Q a (view s').broker books)
      (fun fault s' books => (view s').session = n ∧ F fault (view s').broker books) := by
  obtain ⟨b, heard, heard', hbefore, hanswer, hafter, hsession, hevents⟩ := hcalls
  rw [hn] at hanswer hafter hsession hevents
  have hop := hop b _ (hP _ _ _ _ h hbefore)
  unfold Reply.Ends
  rw [hevents, confirmsOf_append, Books.handleAll_append, hanswer]
  cases ha : (op b n).answer with
  | ok a =>
    rw [ha] at hop
    exact ⟨hsession, hQ a _ _ _ _ hop hafter⟩
  | error fault =>
    rw [ha] at hop
    exact ⟨hsession, hF fault _ _ _ _ hop hafter⟩

theorem ends_of_calls {s : σ} {n : Nat} {op : Broker → Nat → Answer α}
    {reply : Reply Confirm σ α} {P F : Broker → Books Message → Prop}
    {Q : α → Broker → Books Message → Prop} {books : Books Message}
    (hcalls : Calls view s op reply) (hn : (view s).session = n) (hP : Stable n P)
    (hQ : ∀ a, Stable n (Q a)) (hF : Stable n F) (h : P (view s).broker books)
    (hop : ∀ b books, P b books → match (op b n).answer with
      | .ok a => Q a (op b n).state books
      | .error _ => F (op b n).state books) :
    reply.Ends books (fun a s' books => (view s').session = n ∧ Q a (view s').broker books)
      (fun _ s' books => (view s').session = n ∧ F (view s').broker books) :=
  ends_of_calls_fault hcalls hn hP hQ (fun _ => hF) h hop

section Round

variable {before : Broker} {parcel : Message → Parcel} {goal : Multiset Parcel}
  {pending : List Message} {n : Nat}

/-- Between the steps of a round the session in use holds what is in flight, and the messages that
are left are not recorded yet. -/
def Sending (view : σ → Client) (before : Broker) (parcel : Message → Parcel)
    (goal : Multiset Parcel) (pending : List Message) (n : Nat) (done : List Message) (s : σ)
    (books : Books Message) : Prop :=
  (view s).session = n ∧ ∃ rest, done ++ rest = pending
    ∧ Holding before parcel goal n ↑(rest.map parcel) [] (UInt64.ofNat (done.length + 1)) done.length
      (view s).broker books

/-- When a step has failed, one message may be recorded that was not sent. -/
def Stopped (view : σ → Client) (before : Broker) (parcel : Message → Parcel)
    (goal : Multiset Parcel) (n : Nat) (s : σ) (books : Books Message) : Prop :=
  (view s).session = n ∧ ∃ rest extra next bound,
    Holding before parcel goal n rest extra next bound (view s).broker books

theorem stable_holding (rest : Multiset Parcel) (extra : List (Tag × Parcel)) (next : Tag)
    (bound : Nat) : Stable n (Holding before parcel goal n rest extra next bound) :=
  fun _ _ _ _ h hidle => h.interlude hidle

theorem Sending.stopped {done : List Message} {s : σ} {books : Books Message}
    (h : Sending view before parcel goal pending n done s books) :
    Stopped view before parcel goal n s books := by
  obtain ⟨hn, rest, -, h⟩ := h
  exact ⟨hn, _, _, _, _, h⟩

theorem Sending.waits {done : List Message} {s s' : σ} {books : Books Message}
    {events : List Confirm} (h : Sending view before parcel goal pending n done s books)
    (hwaits : Waits view s events s') :
    Sending view before parcel goal pending n done s' (books.handleAll events) := by
  obtain ⟨hn, rest, hrest, h⟩ := h
  obtain ⟨heard, hidle, hsession, rfl⟩ := hwaits
  rw [hn]
  exact ⟨hsession.trans hn, rest, hrest, h.interlude hidle⟩

theorem idles_keeps {done : List Message} : ∀ (lull : Lull Confirm σ) {s : σ}
    {books : Books Message}, Sending view before parcel goal pending n done s books →
    Idles view s lull →
    lull.Keeps (Sending view before parcel goal pending n done)
      (Stopped view before parcel goal n) books
  | .timeUp _ _, _, _, h, hwaits => (h.waits hwaits).stopped
  | .stir _ _ next, _, _, h, ⟨hwaits, hnext⟩ =>
    ⟨h.waits hwaits, fun _ => idles_keeps next (h.waits hwaits) hnext⟩

theorem toNat_nextTag {done rest : List Message} {m : Message} (hlen : pending.length < 2 ^ 64)
    (hrest : done ++ m :: rest = pending) :
    (UInt64.ofNat (done.length + 1)).toNat = done.length + 1 := by
  have := congrArg List.length hrest
  rw [List.length_append, List.length_cons] at this
  exact UInt64.toNat_ofNat_of_lt' (by unfold UInt64.size; omega)

theorem nextTag_of_holding {rest : Multiset Parcel} {extra : List (Tag × Parcel)} {next : Tag}
    {bound : Nat} {b : Broker} {books : Books Message}
    (h : Holding before parcel goal n rest extra next bound b books) : b.nextTag n = next := by
  obtain ⟨added, s, h⟩ := h
  unfold Broker.nextTag
  rw [h.session]
  exact h.inUse.nextTag

theorem enable_sending (hserves : Serves view link) {s₀ : σ} {added : List Delivery} {s : Session}
    (hnew : New before added n none (view s₀).broker s) (hn : (view s₀).session = n)
    (hgoal : ↑(added.map Delivery.parcel) + ↑(pending.map parcel) = goal) :
    (link.enableConfirms (link.listen s₀)).Ends ∅ (fun _ => Sending view before parcel goal pending n [])
      (fun _ => Stopped view before parcel goal n) := by
  obtain ⟨l, hlisten⟩ := hserves.listen s₀
  rw [hn] at hlisten
  have hnew' := hnew.listen l
  have hends := ends_of_calls (n := n) (hserves.enableConfirms (link.listen s₀)) (by rw [hlisten])
    (P := fun b books => books = ∅ ∧ ∃ s, New before added n (some l) b s)
    (Q := fun _ => Holding before parcel goal n ↑(pending.map parcel) [] 1 0)
    (F := fun _ _ => False)
    (fun b b' heard books h hidle => by
      obtain ⟨rfl, s, h⟩ := h
      exact ⟨Books.handleAll_empty _, h.interlude hidle⟩)
    (fun _ => stable_holding _ _ _ _) (fun _ _ _ _ h _ => h.elim)
    ⟨rfl, _, by rw [hlisten]; exact hnew'⟩
    (fun b books h => by
      obtain ⟨rfl, s, h⟩ := h
      obtain ⟨hanswer, hholding⟩ := h.enabled parcel ↑(pending.map parcel)
      rw [hgoal] at hholding
      rw [hanswer]
      exact hholding)
  exact hends.imp (fun _ _ _ ⟨hn', h⟩ => ⟨hn', pending, rfl, h⟩) fun _ _ _ ⟨_, h⟩ => h.elim

theorem declare_sending (hserves : Serves view link) {done : List Message} {s : σ}
    {books : Books Message} (h : Sending view before parcel goal pending n done s books)
    (destination : String) :
    (link.declare destination s).Ends books
      (fun _ => Sending view before parcel goal pending n done)
      (fun _ => Stopped view before parcel goal n) := by
  obtain ⟨hn, rest, hrest, h⟩ := h
  have hends := ends_of_calls (hserves.declare destination s) hn
    (P := Holding before parcel goal n ↑(rest.map parcel) [] (UInt64.ofNat (done.length + 1))
      done.length)
    (Q := fun _ => Holding before parcel goal n ↑(rest.map parcel) []
      (UInt64.ofNat (done.length + 1)) done.length)
    (F := Holding before parcel goal n ↑(rest.map parcel) [] (UInt64.ofNat (done.length + 1))
      done.length)
    (stable_holding _ _ _ _) (fun _ => stable_holding _ _ _ _) (stable_holding _ _ _ _) h
    (fun b books h => by
      have := h.declared destination
      split
      · exact this
      · exact this)
  exact hends.imp (fun _ _ _ ⟨hn', h⟩ => ⟨hn', rest, hrest, h⟩)
    fun _ _ _ ⟨hn', h⟩ => ⟨hn', _, _, _, _, h⟩

theorem transmit_sending (hserves : Serves view link) {settings : Settings}
    (hlen : pending.length < 2 ^ 64) {done : List Message} {s : σ} {books books' : Books Message}
    {m : Message} (h : Sending view before settings.parcel goal pending n done s books)
    (hdone : done ++ [m] <+: pending) (hadd : books.add? (link.nextTag s) m = some books') :
    (link.transmit m.destination (m.properties settings.contentType settings.persistent)
        m.body s).Ends books'
      (fun tag s' b => if tag = link.nextTag s
        then Sending view before settings.parcel goal pending n (done ++ [m]) s' b
        else Stopped view before settings.parcel goal n s' b)
      (fun _ => Stopped view before settings.parcel goal n) := by
  obtain ⟨hn, rest, hrest, h⟩ := h
  obtain ⟨later, hlater⟩ := hdone
  obtain rfl : rest = m :: later := by
    rw [← hrest, List.append_assoc] at hlater
    exact (List.append_cancel_left hlater).symm
  have hnext : link.nextTag s = UInt64.ofNat (done.length + 1) := by
    rw [hserves.nextTag, hn]
    exact nextTag_of_holding h
  have htag := toNat_nextTag hlen hrest
  rw [hnext] at hadd ⊢
  rw [List.map_cons, ← Multiset.cons_coe] at h
  have h := h.recorded (by rw [htag]; exact Nat.lt_succ_self _) hadd
  rw [htag] at h
  have hends := ends_of_calls
    (hserves.transmit m.destination (m.properties settings.contentType settings.persistent) m.body s)
    hn
    (Q := fun tag b books => tag = UInt64.ofNat (done.length + 1)
      ∧ Holding before settings.parcel goal n ↑(later.map settings.parcel) []
          (UInt64.ofNat (done.length + 1) + 1) (done.length + 1) b books)
    (F := Holding before settings.parcel goal n ↑(later.map settings.parcel)
      [(UInt64.ofNat (done.length + 1), settings.parcel m)] (UInt64.ofNat (done.length + 1))
      (done.length + 1))
    (stable_holding _ _ _ _)
    (fun _ _ _ _ _ h hidle => ⟨h.1, h.2.interlude hidle⟩) (stable_holding _ _ _ _) h
    (fun b books h => by
      have hop := h.transmitted
      cases hanswer : (b.transmit n m.destination
          (m.properties settings.contentType settings.persistent) m.body).answer with
      | ok tag =>
        rw [hanswer] at hop
        exact hop
      | error fault =>
        rw [hanswer] at hop
        exact hop)
  refine hends.imp (fun tag s' b h => ?_) fun _ _ _ ⟨hn', h⟩ => ⟨hn', _, _, _, _, h⟩
  obtain ⟨hn', rfl, h⟩ := h
  rw [if_pos rfl]
  refine ⟨hn', later, by rw [← hrest, List.append_assoc]; rfl, ?_⟩
  rw [tag_append, List.length_append]
  exact h

/-- A round on a new session is either sending or has stopped. -/
theorem upholds_sending (hserves : Serves view link) {settings : Settings} {s₀ : σ}
    {added : List Delivery} {s : Session} (hnew : New before added n none (view s₀).broker s)
    (hn : (view s₀).session = n) (hlen : pending.length < 2 ^ 64)
    (hgoal : ↑(added.map Delivery.parcel) + ↑(pending.map settings.parcel) = goal) :
    Round.Upholds link settings pending s₀
      (fun done _ => Sending view before settings.parcel goal pending n done)
      (fun _ _ => Stopped view before settings.parcel goal n) where
  enable := enable_sending hserves hnew hn hgoal
  declare destination h _ := declare_sending hserves h destination
  duplicate h _ _ := h.stopped
  transmit h hdone _ hadd := transmit_sending hserves hlen h hdone hadd
  await {done declared s b} batch h _ := by
    have h := h.waits (hserves.awaitConfirms settings.batchConfirmTimeout s)
    unfold Reply.Ends
    split
    · dsimp only
      split_ifs
      · exact h
      · exact h.stopped
    · exact h.stopped
  lull {declared s b} h _ := idles_keeps _ h (hserves.lull settings.timeout s)

/-- Closing the session in use: what it does before it closes is accounted for, and after that none
is in use. -/
theorem close_stopped (hserves : Serves view link) {s : σ} {rest : Multiset Parcel}
    {extra : List (Tag × Parcel)} {next : Tag} {bound : Nat} {books : Books Message}
    (hn : (view s).session = n)
    (h : Holding before parcel goal n rest extra next bound (view s).broker books) :
    ∃ added cs, Course before added 0 (view (link.close s).state).broker
      ∧ ↑(added.map Delivery.parcel) + ↑((books.handleAll cs).rejected.map parcel)
        + ↑((seen parcel (books.handleAll cs)).map Prod.snd) + rest = goal := by
  obtain ⟨b, heard, heard', hidle, -, hafter, -, -⟩ := hserves.close s
  rw [hn] at hafter
  obtain ⟨added, s', h⟩ := h.interlude hidle
  exact ⟨added, _, h.closed.interlude hafter, h.account⟩

end Round

/-- Between two rounds no session is in use, and what was added to the queues and what is to be sent
again make up the goal. -/
def Settling (view : σ → Client) (before : Broker) (parcel : Message → Parcel)
    (goal : Multiset Parcel) (pending : List Message) (s : σ) : Prop :=
  ∃ added, Course before added 0 (view s).broker
    ∧ ↑(added.map Delivery.parcel) + ↑(pending.map parcel) = goal

/-- When a round has failed, what was added is part of the goal. -/
def Failed (view : σ → Client) (before : Broker) (goal : Multiset Parcel) (s : σ) : Prop :=
  ∃ added, Course before added 0 (view s).broker ∧ ↑(added.map Delivery.parcel) ≤ goal

theorem Settling.failed {before : Broker} {parcel : Message → Parcel} {goal : Multiset Parcel}
    {pending : List Message} {s : σ} (h : Settling view before parcel goal pending s) :
    Failed view before goal s := by
  obtain ⟨added, hcourse, rfl⟩ := h
  exact ⟨added, hcourse, Multiset.le_add_right _ _⟩

section Call

variable (p : Publisher) {before : Broker}

theorem conclude_settling (hserves : Serves view link) {goal : Multiset Parcel} {n : Nat}
    {pending : List Message} {s : σ} (report : Report)
    (hopened : Failed view before goal (link.openSession s).state
      ∨ ∃ u, (link.openSession s).answer = .ok u)
    {result : Except Failure (Outcome Message)} {s' : σ}
    (h : Round.Concludes link pending s
      (fun done _ => Sending view before p.settings.parcel goal pending n done)
      (fun _ _ => Stopped view before p.settings.parcel goal n) result s') :
    Retry.EndsRound (fun _ => Settling view before p.settings.parcel goal)
      (fun _ => Failed view before goal) report result s' := by
  cases result with
  | error e =>
    rcases h with ⟨fault, hanswer, -, rfl⟩ | ⟨done, s₁, b, -, hstopped, -, rfl⟩
    · rcases hopened with hfailed | ⟨u, hu⟩
      · exact hfailed
      · rw [hu] at hanswer
        exact absurd hanswer (by rintro ⟨⟩)
    · obtain ⟨hn, rest, extra, next, bound, hholding⟩ := hstopped
      obtain ⟨added, cs, hcourse, haccount⟩ := close_stopped hserves hn hholding
      refine ⟨added, hcourse, ?_⟩
      rw [← haccount, add_assoc, add_assoc]
      exact Multiset.le_add_right _ _
  | ok outcome =>
    obtain ⟨declared, s₁, b, ⟨hn, rest, hrest, hholding⟩, hdrained, -, rfl, rfl⟩ := h
    obtain ⟨added, cs, hcourse, haccount⟩ := close_stopped hserves hn hholding
    obtain ⟨_, _, hheld⟩ := hholding
    have hnone := (Books.drained_iff hheld.current).1 hdrained
    have hrest : rest = [] := by simpa using hrest
    rw [Books.handleAll_of_unanswered_nil hnone] at haccount ⊢
    refine ⟨added, hcourse, ?_⟩
    rw [← haccount, hrest]
    simp [seen, hnone]

theorem publishAll_settles (hserves : Serves view link) {messages : List Message}
    (hlen : messages.length < 2 ^ 64) (j : Journaled σ) (hself : OfItself (view j.state).broker) :
    Retry.Ends
      (fun _ => Settling view (view j.state).broker p.settings.parcel ↑(messages.map p.settings.parcel))
      (fun _ => Failed view (view j.state).broker ↑(messages.map p.settings.parcel))
      (p.publishAll link messages j).1 (p.publishAll link messages j).2.state := by
  refine p.publishAll_ends (fun report pending s _ h => ?_) (fun _ h => h)
    ⟨[], course_start hself, zero_add _⟩
  obtain ⟨added, hcourse, hgoal⟩ := h
  obtain ⟨b, heard, heard', hbefore, hanswer, hafter, hsession⟩ := hserves.openSession s
  have hcourse := hcourse.interlude hbefore
  have hlen' : pending.length < 2 ^ 64 := by
    have hcard := congrArg Multiset.card hgoal
    simp only [Multiset.card_add, Multiset.coe_card, List.length_map] at hcard
    omega
  cases hopen : b.openSession.answer with
  | error fault =>
    have hstate : b.openSession.state = b := by
      rcases openSession_cases b with ⟨-, heq⟩ | ⟨-, heq⟩
      · rw [heq]
        rfl
      · rw [heq] at hopen
        cases hopen
    rw [hstate] at hafter
    have hfailed : Failed view (view j.state).broker ↑(messages.map p.settings.parcel)
        (link.openSession s).state :=
      Settling.failed ⟨added, hcourse.interlude hafter, hgoal⟩
    rw [hopen] at hanswer
    refine ⟨_, _, fun hok => ?_, fun result s' hends =>
      conclude_settling p (n := 0) hserves report (.inl hfailed) hends⟩
    rw [hanswer] at hok
    exact absurd hok (by rintro ⟨⟩)
  | ok n =>
    obtain ⟨s₁, hnew⟩ := hcourse.openSession hopen
    obtain ⟨s₂, hnew⟩ := hnew.interlude hafter
    rw [hopen] at hanswer
    exact ⟨_, _, fun _ => upholds_sending hserves hnew (hsession n hopen) hlen' hgoal,
      fun result s' hends => conclude_settling p hserves report (.inr ⟨(), hanswer⟩) hends⟩

/-- Over a broker in memory, whatever it does and whenever its sessions pass, a call adds to the
queues every message exactly once if it comes back with a report, and at most once otherwise; all
of it goes to the destinations of the messages, and the script accepts all of it. What else is
added meanwhile was sent before the call. -/
theorem publishAll_stores (hserves : Serves view link) (messages : List Message)
    (hlen : messages.length < 2 ^ 64) (j : Journaled σ)
    (hreachable : Reachable (fun b b' => ∃ heard, Interlude b heard b') (view j.state).broker) :
    let before := (view j.state).broker
    let after := (view (p.publishAll link messages j).2.state).broker
    ∃ added : List Delivery,
      (∀ q, ∃ rest, after.stored q = before.stored q ++ rest
        ∧ rest.filter (fun d => before.opened < d.session)
          = added.filter (fun d => d.destination = q)
        ∧ ∀ d ∈ rest, d.session ≤ before.opened → d ∈ before.deliveries)
      ∧ (∀ d ∈ added, before.opened < d.session ∧ before.script d = .ack)
      ∧ (∀ report, (p.publishAll link messages j).1 = some (.ok report) →
          (added.map Delivery.parcel).Perm (messages.map p.settings.parcel))
      ∧ (added.map Delivery.parcel).Subperm (messages.map p.settings.parcel) := by
  intro before after
  have hself := ofItself_of_reachable (fun _ _ h => h) hreachable
  have hends := publishAll_settles p hserves hlen j hself
  have hfailed : Failed view before ↑(messages.map p.settings.parcel)
      (p.publishAll link messages j).2.state := by
    rcases hresult : (p.publishAll link messages j).1 with _ | e | report
    · rw [hresult] at hends
      obtain ⟨_, _, h⟩ := hends
      exact h.failed
    · rw [hresult] at hends
      rcases hends with h | ⟨_, _, h⟩
      · exact h
      · exact h.failed
    · rw [hresult] at hends
      exact Settling.failed hends
  by_cases hok : ∃ report, (p.publishAll link messages j).1 = some (.ok report)
  · obtain ⟨report, hreport⟩ := hok
    rw [hreport] at hends
    obtain ⟨added, hcourse, hgoal⟩ := hends
    rw [List.map_nil, Multiset.coe_nil, add_zero, Multiset.coe_eq_coe] at hgoal
    exact ⟨added, hcourse.gained.kept, hcourse.gained.accepted, fun _ _ => hgoal, hgoal.subperm⟩
  · obtain ⟨added, hcourse, hle⟩ := hfailed
    exact ⟨added, hcourse.gained.kept, hcourse.gained.accepted,
      fun report hreport => absurd ⟨report, hreport⟩ hok, Multiset.coe_le.1 hle⟩

/-- A broker that refuses what is first sent and reports runs. -/
def reluctant : Broker :=
  { start with script := .nackFirstAttempt fun _ => true, reporting := .cumulative }

theorem publishAll_stores_reluctant :
    let messages : List Message := [⟨1, "Hello", .empty, .empty⟩, ⟨2, "GoodBye", .empty, .empty⟩]
    let j : Journaled Client := .start ⟨reluctant, 0⟩
    (Publisher.standard.publishAll Client.link messages j).1 = some (.ok ⟨4, 2, 2, 2, .zero⟩)
      ∧ ∃ added : List Delivery,
        (added.map Delivery.parcel).Perm (messages.map Publisher.standard.settings.parcel)
          ∧ ∀ d ∈ added, reluctant.opened < d.session ∧ reluctant.script d = .ack := by
  intro messages j
  have hreport : (Publisher.standard.publishAll Client.link messages j).1
      = some (.ok ⟨4, 2, 2, 2, .zero⟩) := Publisher.eq_of_reported (by decide +kernel)
  have hreachable : Reachable (fun b b' => ∃ heard, Interlude b heard b') reluctant :=
    .configured reluctant.script reluctant.reporting reluctant.delay reluctant.limit
      reluctant.disconnected .start
  obtain ⟨added, -, haccepted, hperm, -⟩ :=
    publishAll_stores Publisher.standard Client.serves messages (by decide) j hreachable
  exact ⟨hreport, added, hperm _ hreport, haccepted⟩

end Call

end ConfirmedDelivery.Broker
