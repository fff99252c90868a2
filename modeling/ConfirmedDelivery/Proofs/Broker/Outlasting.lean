import ConfirmedDelivery.Proofs.Broker.Deferred
import ConfirmedDelivery.Proofs.Broker.Excerpt
import ConfirmedDelivery.Proofs.Publisher

/-!
# Waits that outlast the delay

A broker is brisk if whoever waits for some time outlasts its delay (`Brisk`). Then the session in use
reports in each wait, be it in the first stir or later, and what comes of the wait can be told from an
excerpt of the broker (`Active.awaitConfirms`, `Active.lull`).
-/

namespace ConfirmedDelivery.Broker

/-! ## Brisk brokers -/

/-- A quiet broker that takes new sessions, and `P` looks at them: its delay is over before somebody gives
up who waits for `wait` milliseconds. -/
structure Brisk (P : Nat → Bool) (wait n : Nat) (b : Broker) : Prop extends Quiet P n b where
  known : Known b
  connected : b.disconnected = false
  brief : b.delay.waitMillis < wait
  ahead : ∀ m, b.opened < m → P m = true

section Brisk

variable {P : Nat → Bool} {wait n m : Nat} {b b' : Broker} {s : Session}

theorem Brisk.clock (h : Brisk P wait n b) (waits now : Nat) (ready : List Nat)
    (due : Dict Nat (List Nat)) (hknown : Known b → Known { b with waits, now, ready, due }) :
    Brisk P wait n { b with waits, now, ready, due } :=
  ⟨h.toQuiet.congr rfl rfl fun _ => id, hknown h.known, h.connected, h.brief, h.ahead⟩

theorem Brisk.passFirst (h : Brisk P wait n b) (k m : Nat) :
    Brisk P wait n (b.passFirst k m).1 := by
  have hledger := ledger_passFirst b k m
  refine ⟨h.toQuiet.passFirst k m, h.known.mono (fun m' hm' => ?_) (opened_of_ledger hledger).ge,
    (congrArg Ledger.disconnected hledger).trans h.connected,
    (congrArg (fun l : Ledger => l.delay.waitMillis) hledger).trans_lt h.brief,
    fun m' hm' => h.ahead m' (opened_of_ledger hledger ▸ hm')⟩
  unfold scheduled at hm'
  rwa [due_passFirst] at hm'

/-- What is done with the session in use leaves the broker brisk. -/
theorem Brisk.updated (h : Brisk P wait n b) (f : Session → Session) (deliveries : List Delivery)
    (attempts : Tally) (transmits : Nat) (ready : List Nat) {b' : Broker}
    (heq : b' = { b with
      sessions := (b.update n f).sessions
      deliveries, attempts, transmits, ready })
    (hown : OfItself b') (hhoused : Housed b') : Brisk P wait n b' := by
  have hsessions : b'.sessions = (b.update n f).sessions := by rw [heq]
  have hdue : b'.due = b.due := by rw [heq]
  have hdelay : b'.delay = b.delay := by rw [heq]
  have hconnected : b'.disconnected = b.disconnected := by rw [heq]
  refine ⟨⟨hown, hhoused, fun {m s} hm hseen hs => ?_⟩, h.known.update n hsessions hdue,
    hconnected.trans h.connected, hdelay ▸ h.brief, fun m hm => ?_⟩
  · rw [session?_updated hsessions, if_neg (Ne.symm hm)] at hs
    exact h.spent hm hseen hs
  · exact h.ahead m ((opened_updated hsessions).symm.trans_lt hm)

end Brisk

/-- Whoever waits until nothing is in flight waits until the books are these, or the time is up, and then
knows whether nothing is. -/
theorem watch_drained {timeout : Span} {r : Round Client} {R : Broker → Books Message → Prop}
    {books : Books Message} (hopen : r.drained = false)
    (hbooks : ∀ {b books'}, R b books' → books' = books)
    (hkeeps : (Client.link.lull timeout r.link).Keeps
      (fun c books' => c.session = r.link.session ∧ (books' = r.books ∨ R c.broker books'))
      (fun c books' => c.session = r.link.session ∧ R c.broker books'
        ∧ books'.inFlight.drained = false) r.books) :
    ∃ b' journal, (Client.link.lull timeout r.link).watch Round.absorb Round.drained r
        = (books.inFlight.drained, ⟨⟨b', r.link.session⟩, journal, books, r.declared, r.sent⟩)
      ∧ R b' books := by
  obtain ⟨inTime, c, journal, books', hwatch, hend⟩ := Round.watch_keeps _ r hkeeps
  have hreached : c.session = r.link.session ∧ R c.broker books'
      ∧ books'.inFlight.drained = inTime := by
    cases inTime with
    | false => exact hend
    | true =>
      obtain ⟨⟨hsession, hb⟩, hdrained⟩ := hend
      refine ⟨hsession, hb.resolve_left fun heq => ?_, hdrained⟩
      rw [heq] at hdrained
      exact Bool.false_ne_true (hopen.symm.trans hdrained)
  obtain ⟨hsession, hb, rfl⟩ := hreached
  obtain rfl : books' = books := hbooks hb
  refine ⟨c.broker, journal, ?_, hb⟩
  rw [hwatch, ← hsession]

/-! ## The session in use -/

/-- The session in use on a brisk broker. It has taken in nothing but what is withheld, and counts what
it did not take in among what is unconfirmed. -/
structure Used (P : Nat → Bool) (wait n : Nat) (b : Broker) (s : Session) : Prop
    extends Brisk P wait n b where
  seen : P n = true
  session : b.session? n = some s
  unclosed : s.closed = false
  withheld : ∀ x ∈ s.pending.values, x.settles = false
  counted : s.queue.length ≤ s.unconfirmed

/-- As `Used`, with its confirms turned on and this delay of its own. -/
structure Active (P : Nat → Bool) (wait n : Nat) (delay : Span) (b : Broker) (s : Session) : Prop
    extends Used P wait n b s where
  confirming : s.confirming = true
  delay_eq : s.delay = delay
  outlasted : delay.waitMillis < wait

section Used

variable {P : Nat → Bool} {wait n m : Nat} {delay : Span} {b b' : Broker} {s : Session}

theorem Used.spent_of_empty (h : Used P wait n b s) (hqueue : s.queue = []) : s.Spent := fun x hx => by
  unfold Session.contents at hx
  rw [hqueue, List.append_nil] at hx
  exact h.withheld x hx

theorem Used.congr (h : Used P wait n b s) (hbrisk : Brisk P wait n b')
    (hsession : b'.session? n = b.session? n) : Used P wait n b' s :=
  ⟨hbrisk, h.seen, hsession.trans h.session, h.unclosed, h.withheld, h.counted⟩

theorem Active.congr (h : Active P wait n delay b s) (hbrisk : Brisk P wait n b')
    (hsession : b'.session? n = b.session? n) : Active P wait n delay b' s :=
  ⟨h.toUsed.congr hbrisk hsession, h.confirming, h.delay_eq, h.outlasted⟩

/-- What is done with the session in use leaves it in use, unless it is closed. -/
theorem Used.updated (h : Used P wait n b s) (f : Session → Session) (deliveries : List Delivery)
    (attempts : Tally) (transmits : Nat) (ready : List Nat)
    (heq : b' = { b with
      sessions := (b.update n f).sessions
      deliveries, attempts, transmits, ready })
    (hown : OfItself b') (hhoused : Housed b') (hopen : (f s).closed = false)
    (hpending : (f s).pending = s.pending) (hcounted : (f s).queue.length ≤ (f s).unconfirmed) :
    Used P wait n b' (f s) := by
  have hsessions : b'.sessions = (b.update n f).sessions := by rw [heq]
  refine ⟨h.toBrisk.updated f deliveries attempts transmits ready heq hown hhoused, h.seen, ?_, hopen,
    hpending ▸ h.withheld, hcounted⟩
  rw [session?_updated hsessions, if_pos rfl, h.session]
  rfl

theorem Active.openSession? (h : Active P wait n delay b s) : b.openSession? n = .ok s :=
  openSession?_of_session h.session h.unclosed

theorem Active.pass (h : Active P wait n delay b s) :
    Active P wait n delay (b.pass n).1 (s.passed s.queue.length)
      ∧ (s.passed s.queue.length).queue = [] := by
  have hqueue : (s.passed s.queue.length).queue = [] := List.drop_length
  have hsession : (b.pass n).1.session? n = some (s.passed s.queue.length) := by
    unfold Broker.pass queued
    rw [passFirst_exact h.session, session?_change, if_pos rfl, h.session]
    rfl
  refine ⟨⟨⟨h.toBrisk.passFirst _ n, h.seen, hsession, h.unclosed, withheld_passed s _, ?_⟩,
    h.confirming, h.delay_eq, h.outlasted⟩, hqueue⟩
  rw [hqueue]
  exact Nat.zero_le _

/-! ## Waits -/

/-- The session in use is like `X`, and an excerpt of the broker and the books are these. -/
def Standing (P : Nat → Bool) (wait n : Nat) (delay : Span) (X : Session → Prop) (e : Excerpt)
    (books : Books Message) (b : Broker) (books' : Books Message) : Prop :=
  (∃ s, Active P wait n delay b s ∧ X s) ∧ b.excerpt P n = e ∧ books' = books

variable {X : Session → Prop} {e : Excerpt} {books books' : Books Message}

theorem aloof_standing : Aloof n (Standing P wait n delay X e books) where
  clock waits now ready due := fun ⟨⟨s, h, hX⟩, hexcerpt, hbooks⟩ hknown =>
    ⟨⟨s, h.congr (h.toBrisk.clock waits now ready due hknown) (session?_congr rfl n), hX⟩,
      (excerpt_clock waits now ready due).trans hexcerpt, hbooks⟩
  pass_other {b _ m} k := fun ⟨⟨s, h, hX⟩, hexcerpt, hbooks⟩ hm =>
    ⟨⟨s, h.congr (h.toBrisk.passFirst k m) (passFirst_other b hm k).1, hX⟩,
      (excerpt_passFirst_other h.toQuiet hm k).trans hexcerpt, hbooks⟩

theorem slow_standing : Aloof.Slow n delay (Standing P wait n delay (fun s => s.queue ≠ []) e books) :=
  fun ⟨⟨s, hs, hqueue⟩, _⟩ => ⟨s, hs.session, hqueue, hs.delay_eq⟩

/-- After its pass the session in use has nothing left in its queue. -/
abbrev Reported (P : Nat → Bool) (wait n : Nat) (delay : Span) (e : Excerpt) (books : Books Message) :
    Broker → Books Message → Prop :=
  Standing P wait n delay (fun s => s.queue = []) (e.pass n) (books.handleAll (e.heard n))

theorem turns_standing : Turns Broker.pass n (Standing P wait n delay X e books)
    (Reported P wait n delay e books) := fun {b _} ⟨⟨s, h, _⟩, hexcerpt, hbooks⟩ => by
  obtain ⟨hpassed, hheard⟩ := excerpt_pass h.own h.seen h.session
  rw [hexcerpt] at hpassed hheard
  rw [hheard, hbooks]
  exact ⟨⟨_, h.pass⟩, hpassed, rfl⟩

/-- A session with nothing left in its queue changes nothing by passing. -/
theorem Standing.pass_eq (h : Standing P wait n delay (fun s => s.queue = []) e books b books') :
    e.pass n = e ∧ e.heard n = [] := by
  obtain ⟨⟨s, hs, hqueue⟩, rfl, -⟩ := h
  have hsession : (b.excerpt P n).session = some s.timeless :=
    congrArg (Option.map Session.timeless) hs.session
  exact Excerpt.pass_spent hsession (hs.toUsed.spent_of_empty hqueue) hqueue n

theorem reported_of_standing
    (h : Standing P wait n delay (fun s => s.queue = []) e books b books') :
    Reported P wait n delay e books b books' := by
  obtain ⟨hpass, hheard⟩ := h.pass_eq
  unfold Reported
  rw [hpass, hheard]
  exact h

theorem turns_reported : Turns Broker.pass n (Reported P wait n delay e books)
    (Reported P wait n delay e books) := fun {b books'} h => by
  obtain ⟨hpass, hheard⟩ := h.pass_eq
  have hagain := turns_standing h
  unfold Reported at hagain
  rwa [hpass, hheard] at hagain

theorem begins_idle : Begins n
    (fun b books' => Standing P wait n delay (fun s => s.queue = []) e books b books'
      ∧ n ∉ b.scheduled)
    (fun b books' => Standing P wait n delay (fun s => s.queue = []) e books b books'
      ∧ n ∉ b.scheduled) := fun {b _} ⟨hb, hfree⟩ => by
  obtain ⟨⟨s, hs, hqueue⟩, hrest⟩ := hb
  rw [beginPass_empty hs.session hqueue]
  exact ⟨⟨⟨s, hs, hqueue⟩, hrest⟩, hfree⟩

variable {timeout : Span}

/-- A wait is of no use where nothing was sent. -/
theorem Standing.rests (h : Standing P wait n delay (fun s => s.queue = []) e books b books)
    (hfree : n ∉ b.scheduled) (timeout : Span) :
    Rests n (fun b books' => Standing P wait n delay (fun s => s.queue = []) e books b books'
      ∧ n ∉ b.scheduled) books (b.lull timeout) := by
  have haloof : Aloof n (Standing P wait n delay (fun s => s.queue = []) e books) := aloof_standing
  have hsteady := haloof.unscheduled
  by_cases htimeout : timeout.nanos = 0
  · have hlull : b.lull timeout = .timeUp [] b := by
      obtain rfl : timeout = .zero := congrArg Span.mk htimeout
      exact lull_zero b
    rw [hlull]
    exact ⟨h, hfree⟩
  · have hstir := hsteady.runReady_settles hsteady begins_idle begins_idle hfree (.inl ⟨h, hfree⟩)
    rw [lull_eq b htimeout]
    exact ⟨hstir, hsteady.rests _ (Steady.unscheduled_entries hstir.2) hstir⟩

/-- A wait that outlasts the delay sees the session in use report what was sent. -/
theorem Standing.settles (h : Standing P wait n delay (fun s => s.queue ≠ []) e books b books)
    (hfree : n ∉ b.scheduled) (hready : n ∈ b.ready)
    (hlong : delay.waitMillis < timeout.waitMillis) :
    Settles n (Standing P wait n delay (fun s => s.queue ≠ []) e books)
      (fun b books' => Reported P wait n delay e books b books' ∧ n ∉ b.scheduled) books
      (b.lull timeout) := by
  have htimeout : timeout.nanos ≠ 0 := nanos_ne_zero (Nat.zero_lt_of_lt hlong)
  have hstanding : Aloof n (Standing P wait n delay (fun s => s.queue ≠ []) e books) :=
    aloof_standing
  by_cases hdelay : delay.nanos = 0
  · have hbegins : Begins n (fun b books' => Standing P wait n delay (fun s => s.queue ≠ []) e books
          b books' ∧ n ∉ b.scheduled)
        (fun b books' => Reported P wait n delay e books b books' ∧ n ∉ b.scheduled) := by
      intro b _ ⟨hb, hfree⟩
      have hpassed := turns_standing hb
      obtain ⟨⟨s, hs, hqueue⟩, -⟩ := hb
      rw [beginPass_prompt hs.session hqueue (hs.delay_eq ▸ hdelay)]
      refine ⟨hpassed, fun hn => hfree ?_⟩
      unfold scheduled Broker.pass at hn
      rwa [due_passFirst] at hn
    refine (Steady.settles hstanding.unscheduled aloof_standing.unscheduled hbegins begins_idle hfree
      (fun hb => hb.2) htimeout (.inr ⟨⟨h, hfree⟩, hready⟩)).imp fun hb => hb.elim
  · exact hstanding.settles aloof_standing turns_standing turns_reported slow_standing hdelay hlong
      htimeout h hfree hready

theorem allConfirmed_excerpt (P : Nat → Bool) (b : Broker) (n : Nat) :
    (b.excerpt P n).allConfirmed = b.allConfirmed n := by
  unfold Excerpt.allConfirmed excerpt Broker.allConfirmed
  rw [Option.map_map]
  rfl

theorem Active.standing (h : Active P wait n delay b s) (hX : X s) (books : Books Message) :
    Standing P wait n delay X (b.excerpt P n) books b books :=
  ⟨⟨s, h, hX⟩, rfl, rfl⟩

theorem Standing.allConfirmed (h : Standing P wait n delay X e books b books') :
    b.allConfirmed n = e.allConfirmed := by
  rw [← h.2.1, allConfirmed_excerpt]

/-- Whoever waits for confirms and outlasts the delay waits until the session has reported, and then
knows whether that is all. -/
theorem Active.watch (h : Active P wait n delay b s) (hfree : n ∉ b.scheduled)
    (hready : s.queue = [] ∨ n ∈ b.ready) (hlong : delay.waitMillis < timeout.waitMillis)
    (hopen : b.allConfirmed n = false) (books : Books Message) :
    ∃ heard b', (b.lull timeout).watch (fun a heard b => (a.1 ++ heard, b))
          (fun a => a.2.allConfirmed n) ([], b)
        = (((b.excerpt P n).pass n).allConfirmed, heard, b')
      ∧ Reported P wait n delay (b.excerpt P n) books b'
          (books.handleAll (Client.confirmsOf n heard))
      ∧ n ∉ b'.scheduled := by
  by_cases hqueue : s.queue = []
  · have hstanding := h.standing (X := fun s => s.queue = []) hqueue books
    have hunconfirmed := hstanding.allConfirmed.symm.trans hopen
    obtain ⟨heard, b', hwatch, hb', hfree'⟩ := (hstanding.rests hfree timeout).watch
      (fun hb => hb.1.allConfirmed.trans hunconfirmed) [] b
    refine ⟨heard, b', ?_, reported_of_standing hb', hfree'⟩
    rw [hwatch, hstanding.pass_eq.1, hunconfirmed]
    rfl
  · have hstanding := h.standing (X := fun s => s.queue ≠ []) hqueue books
    have hunconfirmed := hstanding.allConfirmed.symm.trans hopen
    obtain ⟨heard, b', hwatch, hb', hfree'⟩ :=
      (hstanding.settles hfree (hready.resolve_left hqueue) hlong).watch
        (fun hb => hb.allConfirmed.trans hunconfirmed) (fun hb => hb.1.allConfirmed) [] b
    exact ⟨heard, b', hwatch, hb', hfree'⟩

/-- A wait for confirms that outlasts the delay ends with what the session reports, whenever that is. -/
theorem Active.awaitConfirms (h : Active P wait n delay b s) (hfree : n ∉ b.scheduled)
    (hready : s.queue = [] ∨ n ∈ b.ready) (hlong : delay.waitMillis < timeout.waitMillis) :
    let r := b.awaitConfirms n timeout
    r.answer = .ok ((b.excerpt P n).pass n).allConfirmed
      ∧ ∀ books : Books Message, Reported P wait n delay (b.excerpt P n) books r.state
          (books.handleAll (Client.confirmsOf n r.events)) ∧ n ∉ r.state.scheduled := by
  let b₁ : Broker := { b with waits := b.waits + 1 }
  have h₁ : Active P wait n delay b₁ s :=
    h.congr (h.toBrisk.clock (b.waits + 1) b.now b.ready b.due id) (session?_congr rfl n)
  have he : b₁.excerpt P n = b.excerpt P n := excerpt_clock ..
  rw [awaitConfirms_on h.openSession? h.confirming, ← he]
  change (if b₁.allConfirmed n then _ else _ : Answer Bool).answer = _ ∧ _
  cases hopen : b₁.allConfirmed n with
  | true =>
    -- everything is answered for, so nothing was sent that the session did not take in
    have hqueue : s.queue = [] := by
      unfold Broker.allConfirmed at hopen
      rw [h₁.session] at hopen
      have hcounted := h.counted
      have hnone : s.unconfirmed = 0 := of_decide_eq_true hopen
      exact List.eq_nil_of_length_eq_zero (by omega)
    have hstanding := h₁.standing (X := fun s => s.queue = []) hqueue
    refine ⟨?_, fun books => ⟨reported_of_standing (hstanding books), hfree⟩⟩
    rw [(hstanding ∅).pass_eq.1, ← (hstanding ∅).allConfirmed, hopen]
    rfl
  | false =>
    rw [if_neg Bool.false_ne_true]
    refine ⟨?_, fun books => ?_⟩
    · obtain ⟨heard, b', hwatch, -⟩ := h₁.watch hfree hready hlong hopen ∅
      rw [hwatch]
    · obtain ⟨heard, b', hwatch, hb'⟩ := h₁.watch hfree hready hlong hopen books
      rw [hwatch]
      exact hb'

/-- So does a wait until nothing is in flight; it may be of any length if nothing was sent. -/
theorem Active.lull {r : Round Client} (h : Active P wait r.link.session delay r.link.broker s)
    (hfree : r.link.session ∉ r.link.broker.scheduled) (hopen : r.drained = false)
    (hready : s.queue = [] ∨ r.link.session ∈ r.link.broker.ready
      ∧ delay.waitMillis < timeout.waitMillis) :
    let n := r.link.session
    let e := r.link.broker.excerpt P n
    let books := r.books.handleAll (e.heard n)
    ∃ b' journal, (Client.link.lull timeout r.link).watch Round.absorb Round.drained r
        = (books.inFlight.drained, ⟨⟨b', n⟩, journal, books, r.declared, r.sent⟩)
      ∧ Reported P wait n delay e r.books b' books ∧ n ∉ b'.scheduled := by
  intro n e books
  refine watch_drained hopen (fun hb => hb.1.2.2) (R := fun b books' =>
    Reported P wait n delay e r.books b books' ∧ n ∉ b.scheduled) ?_
  by_cases hqueue : s.queue = []
  · have hstanding := h.standing (X := fun s => s.queue = []) hqueue r.books
    refine ((hstanding.rests hfree timeout).keeps fun hb => ?_).imp
      (fun _ _ ⟨hsession, hb, _⟩ => ⟨hsession, .inl hb.2.2⟩)
      fun _ _ ⟨hsession, hb, hlate⟩ => ⟨hsession, ⟨reported_of_standing hb.1, hb.2⟩, hlate⟩
    rw [hb.1.2.2]
    exact hopen
  · have hstanding := h.standing (X := fun s => s.queue ≠ []) hqueue r.books
    obtain ⟨hready, hlong⟩ := hready.resolve_left hqueue
    exact (hstanding.settles hfree hready hlong).keeps.imp
      (fun _ _ ⟨hsession, hb⟩ => ⟨hsession, hb.imp_left fun hb => hb.2.2⟩)
      fun _ _ hb => hb

end Used

end ConfirmedDelivery.Broker
