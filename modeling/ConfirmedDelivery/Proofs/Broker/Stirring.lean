import ConfirmedDelivery.Proofs.Broker.Waking
import ConfirmedDelivery.Proofs.Round.Steps

/-!
# What a wait means to one session

While somebody waits the sessions pass one after another, and the clock moves. What is known of one
session, of the broker and of the books that take in its confirms is kept by all of that but the
passes of the session itself (`Steady`). So what its own pass makes of it is known once it has had its
turn (`turns_settle`), and the rest of the wait adds nothing to that (`Rests`, `Settles`). Without delay
the pass reports in the first stir (`Steady.awaits`, `Steady.lull`).
-/

namespace ConfirmedDelivery.Broker

/-- What the passes of other sessions and the clock keep, of the broker and of the books that take in
the confirms of session `n`, as long as that session is not to pass at more times than before. -/
structure Steady (n : Nat) (P : Broker → Books Message → Prop) : Prop where
  clock : ∀ {b : Broker} {books} (waits now : Nat) (ready : List Nat) (due : Dict Nat (List Nat)),
    P b books → (n ∈ ({ b with waits, now, ready, due } : Broker).scheduled → n ∈ b.scheduled) →
    (Known b → Known { b with waits, now, ready, due }) → P { b with waits, now, ready, due } books
  pass_other : ∀ {b books} {m : Nat} (k : Nat), P b books → m ≠ n → P (b.passFirst k m).1 books

/-! ## Turns -/

/-- What session `n` is left with when it has had its turn to do something and the books took in what
it reported. -/
def Turns (op : Broker → Nat → Broker × List Heard) (n : Nat) (P Q : Broker → Books Message → Prop) :
    Prop :=
  ∀ {b : Broker} {books : Books Message}, P b books →
    Q (op b n).1 (books.handleAll (Client.confirmsOf n (op b n).2))

/-- What session `n` is left with after its pass has begun. -/
abbrev Begins (n : Nat) (P Q : Broker → Books Message → Prop) : Prop := Turns beginPass n P Q

/-- What session `n` is left with when it is the turn of another session. -/
def Spared (op : Broker → Nat → Broker × List Heard) (n : Nat) (P : Broker → Books Message → Prop) :
    Prop :=
  ∀ {b : Broker} {books : Books Message} {m : Nat}, P b books → m ≠ n →
    P (op b m).1 books ∧ Client.confirmsOf n (op b m).2 = []

/-- When sessions have their turns one after another, the session in question does so if it is among
them. -/
theorem turns_settle {op : Broker → Nat → Broker × List Heard}
    {all : List Nat → Broker → Broker × List Heard} (hnil : ∀ b, all [] b = (b, []))
    (hcons : ∀ m ms b,
      all (m :: ms) b = ((all ms (op b m).1).1, (op b m).2 ++ (all ms (op b m).1).2))
    {n : Nat} {P Q : Broker → Books Message → Prop} (hP : Spared op n P) (hQ : Spared op n Q)
    (hturn : Turns op n P Q) (hagain : Turns op n Q Q) :
    ∀ {ns : List Nat} {b : Broker} {books : Books Message}, Q b books ∨ P b books ∧ n ∈ ns →
      Q (all ns b).1 (books.handleAll (Client.confirmsOf n (all ns b).2))
  | [], b, _, h => by
    rw [hnil]
    rcases h with h | ⟨-, hn⟩
    · exact h
    · exact absurd hn List.not_mem_nil
  | m :: ns, b, books, h => by
    rw [hcons, confirmsOf_append, Books.handleAll_append]
    by_cases hm : m = n
    · rw [hm]
      exact turns_settle hnil hcons hP hQ hturn hagain
        (.inl (h.elim hagain fun hb => hturn hb.1))
    · rcases h with hb | ⟨hb, hn⟩
      · obtain ⟨hb, hheard⟩ := hQ hb hm
        rw [hheard]
        exact turns_settle hnil hcons hP hQ hturn hagain (.inl hb)
      · obtain ⟨hb, hheard⟩ := hP hb hm
        rw [hheard]
        refine turns_settle hnil hcons hP hQ hturn hagain (.inr ⟨hb, ?_⟩)
        exact (List.mem_cons.1 hn).resolve_left (Ne.symm hm)

theorem beginAll_cons (m : Nat) (ms : List Nat) (b : Broker) : beginAll (m :: ms) b
    = ((beginAll ms (b.beginPass m).1).1, (b.beginPass m).2 ++ (beginAll ms (b.beginPass m).1).2) :=
  rfl

theorem passAll_cons (m : Nat) (ms : List Nat) (b : Broker) : passAll (m :: ms) b
    = ((passAll ms (b.pass m).1).1, (b.pass m).2 ++ (passAll ms (b.pass m).1).2) := rfl

theorem now_passFirst (b : Broker) (k n : Nat) : (b.passFirst k n).1.now = b.now
    ∧ (b.passFirst k n).1.ready = b.ready := by
  rcases hs : b.session? n with _ | s
  · rw [passFirst_none hs]
    exact ⟨rfl, rfl⟩
  · obtain ⟨queues, confirms, heq, -⟩ := passFirst_eq hs k
    rw [heq]
    exact ⟨rfl, rfl⟩

theorem now_passAll : ∀ (ns : List Nat) (b : Broker),
    (passAll ns b).1.now = b.now ∧ (passAll ns b).1.ready = b.ready
  | [], _ => ⟨rfl, rfl⟩
  | n :: ns, b => by
    obtain ⟨hnow, hready⟩ := now_passFirst b (b.queued n) n
    obtain ⟨hnow', hready'⟩ := now_passAll ns (b.pass n).1
    exact ⟨hnow'.trans hnow, hready'.trans hready⟩

theorem known_keep {b : Broker} {p : Nat → List Nat → Bool} {now : Nat} (h : Known b) :
    Known { b with now, due := b.due.keep p } :=
  h.mono (fun _ hm => scheduled_keep (b := b) hm) (Nat.le_refl _)

/-! ## The rest of a wait -/

/-- A lull of which session `n` does not hear anything that would change what `P` says. -/
def Rests (n : Nat) (P : Broker → Books Message → Prop) : Books Message → Lull Heard Broker → Prop
  | books, .timeUp heard b => P b (books.handleAll (Client.confirmsOf n heard))
  | books, .stir heard b next =>
    let books := books.handleAll (Client.confirmsOf n heard)
    P b books ∧ Rests n P books next

/-- A lull in which `P` holds until session `n` reports, from then on it is `Q`. -/
def Settles (n : Nat) (P Q : Broker → Books Message → Prop) :
    Books Message → Lull Heard Broker → Prop
  | _, .timeUp _ _ => False
  | books, .stir heard b next =>
    let books := books.handleAll (Client.confirmsOf n heard)
    P b books ∧ Settles n P Q books next
      ∨ Q b books ∧ Rests n (fun b books' => Q b books' ∧ books' = books) books next

section Waits

variable {n : Nat} {P Q : Broker → Books Message → Prop}

theorem Settles.imp {P' : Broker → Books Message → Prop} (h : ∀ {b books}, P b books → P' b books) :
    ∀ {lull : Lull Heard Broker} {books : Books Message}, Settles n P Q books lull →
      Settles n P' Q books lull
  | .stir _ _ _, _, .inl ⟨hP, hnext⟩ => .inl ⟨h hP, hnext.imp h⟩
  | .stir _ _ _, _, .inr hQ => .inr hQ

/-- Whoever waits for session `n` waits until the time is up. -/
theorem Rests.watch (hdone : ∀ {b books}, P b books → b.allConfirmed n = false) :
    ∀ {lull : Lull Heard Broker} {books : Books Message} (heard : List Heard) (b : Broker),
      Rests n P books lull →
      ∃ more b', lull.watch (fun a heard b => (a.1 ++ heard, b)) (fun a => a.2.allConfirmed n)
          (heard, b) = (false, heard ++ more, b')
        ∧ P b' (books.handleAll (Client.confirmsOf n more))
  | .timeUp more b', _, _, _, h => ⟨more, b', rfl, h⟩
  | .stir more b' next, books, heard, _, ⟨h, hnext⟩ => by
    rw [Lull.watch]
    dsimp only
    rw [hdone h, if_neg Bool.false_ne_true]
    obtain ⟨rest, b'', hwatch, hend⟩ := Rests.watch hdone (heard ++ more) b' hnext
    refine ⟨more ++ rest, b'', ?_, ?_⟩
    · rw [hwatch, List.append_assoc]
    · rwa [confirmsOf_append, Books.handleAll_append]

/-- Whoever waits until nothing is in flight waits until the time is up. -/
theorem Rests.keeps (hopen : ∀ {b books}, P b books → books.inFlight.drained = false) :
    ∀ {lull : Lull Heard Broker} {books : Books Message}, Rests n P books lull →
      (lull.map (fun heard _ => Client.confirmsOf n heard) (⟨·, n⟩ : Broker → Client)).Keeps
        (fun c books => c.session = n ∧ P c.broker books)
        (fun c books => c.session = n ∧ P c.broker books ∧ books.inFlight.drained = false) books
  | .timeUp _ _, _, h => ⟨rfl, h, hopen h⟩
  | .stir _ _ _, _, ⟨h, hnext⟩ => ⟨⟨rfl, h⟩, fun _ => Rests.keeps hopen hnext⟩

/-- Whoever waits for session `n` waits until it has reported, and then until the time is up unless
everything is answered for. -/
theorem Settles.watch (hopen : ∀ {b books}, P b books → b.allConfirmed n = false) {inTime : Bool}
    (hall : ∀ {b books}, Q b books → b.allConfirmed n = inTime) :
    ∀ {lull : Lull Heard Broker} {books : Books Message} (heard : List Heard) (b : Broker),
      Settles n P Q books lull →
      ∃ more b', lull.watch (fun a heard b => (a.1 ++ heard, b)) (fun a => a.2.allConfirmed n)
          (heard, b) = (inTime, heard ++ more, b')
        ∧ Q b' (books.handleAll (Client.confirmsOf n more))
  | .stir more b' next, books, heard, _, h => by
    rw [Lull.watch]
    dsimp only
    have hon : ∀ rest : List Heard, heard ++ (more ++ rest) = heard ++ more ++ rest :=
      fun rest => (List.append_assoc ..).symm
    rcases h with ⟨hP, hnext⟩ | ⟨hQ, hnext⟩
    · rw [hopen hP, if_neg Bool.false_ne_true]
      obtain ⟨rest, b'', hwatch, hend⟩ := Settles.watch hopen hall (heard ++ more) b' hnext
      refine ⟨more ++ rest, b'', by rw [hwatch, hon], ?_⟩
      rwa [confirmsOf_append, Books.handleAll_append]
    · rw [hall hQ]
      cases inTime with
      | true => exact ⟨more, b', rfl, hQ⟩
      | false =>
        obtain ⟨rest, b'', hwatch, hend⟩ :=
          hnext.watch (fun hb => hall hb.1) (heard ++ more) b'
        refine ⟨more ++ rest, b'', by rw [if_neg Bool.false_ne_true, hwatch, hon], ?_⟩
        rw [confirmsOf_append, Books.handleAll_append]
        exact hend.1

/-- Whoever waits until nothing is in flight does so until session `n` has reported, and then until the
time is up if that was not all. -/
theorem Settles.keeps : ∀ {lull : Lull Heard Broker} {books : Books Message},
    Settles n P Q books lull →
    (lull.map (fun heard _ => Client.confirmsOf n heard) (⟨·, n⟩ : Broker → Client)).Keeps
      (fun c books => c.session = n ∧ (P c.broker books ∨ Q c.broker books))
      (fun c books => c.session = n ∧ Q c.broker books ∧ books.inFlight.drained = false) books
  | .stir _ _ _, _, .inl ⟨hP, hnext⟩ => ⟨⟨rfl, .inl hP⟩, fun _ => hnext.keeps⟩
  | .stir _ _ _, _, .inr ⟨hQ, hnext⟩ => by
    refine ⟨⟨rfl, .inr hQ⟩, fun hopen => ?_⟩
    exact (hnext.keeps fun ⟨_, heq⟩ => heq ▸ hopen).imp
      (fun _ _ ⟨hsession, hb, _⟩ => ⟨hsession, .inr hb⟩)
      fun _ _ ⟨hsession, ⟨hb, _⟩, hlate⟩ => ⟨hsession, hb, hlate⟩

end Waits

theorem waitMillis_pos {timeout : Span} (h : timeout.nanos ≠ 0) : 0 < timeout.waitMillis := by
  unfold Span.waitMillis
  split_ifs <;> omega

theorem waitMillis_zero : Span.zero.waitMillis = 0 := by decide +kernel

theorem nanos_ne_zero {timeout : Span} (h : 0 < timeout.waitMillis) : timeout.nanos ≠ 0 := fun hzero => by
  obtain rfl : timeout = .zero := congrArg Span.mk hzero
  exact Nat.ne_of_gt h waitMillis_zero

/-- Whoever waits for some time at all lets everything happen that can happen at once. -/
theorem lull_eq (b : Broker) {timeout : Span} (h : timeout.nanos ≠ 0) :
    b.lull timeout = .stir b.runReady.2 b.runReady.1
      (lullUntil (b.deadline timeout) b.runReady.1.due.entries b.runReady.1) := by
  have hpos := waitMillis_pos h
  have hlater : ¬ b.deadline timeout ≤ b.now := by
    unfold deadline
    omega
  unfold lull
  exact if_neg hlater

namespace Steady

variable {n : Nat} {P Q : Broker → Books Message → Prop} {b : Broker} {books : Books Message}

theorem passAll (h : Steady n P) : ∀ {ns : List Nat} {b : Broker}, n ∉ ns → P b books →
    P (passAll ns b).1 books ∧ Client.confirmsOf n (passAll ns b).2 = []
  | [], _, _, hb => ⟨hb, rfl⟩
  | m :: ns, b, hns, hb => by
    have hm : m ≠ n := fun heq => hns (heq ▸ List.mem_cons_self)
    obtain ⟨hpassed, hmore⟩ := h.passAll (fun hn => hns (List.mem_cons_of_mem _ hn))
      (h.pass_other (b.queued m) hb hm)
    change P (Broker.passAll ns (b.pass m).1).1 books
      ∧ Client.confirmsOf n ((b.pass m).2 ++ (Broker.passAll ns (b.pass m).1).2) = []
    rw [confirmsOf_append]
    exact ⟨hpassed, List.append_eq_nil_iff.2 ⟨(passFirst_other b hm _).2, hmore⟩⟩

theorem spared (h : Steady n P) : Spared beginPass n P := fun {b _ m} hb hm => by
  have hscheduled : n ∈ (b.beginPass m).1.scheduled → n ∈ b.scheduled := fun hn =>
    (scheduled_beginPass hn).elim id fun ⟨heq, _⟩ => absurd heq.symm hm
  have hknown := fun h : Known b => known_beginPass h m
  unfold beginPass at hscheduled hknown ⊢
  rcases hs : b.session? m with _ | s
  · exact ⟨hb, rfl⟩
  · rw [hs] at hscheduled hknown
    dsimp only at hscheduled hknown ⊢
    split_ifs at hscheduled hknown ⊢
    · exact ⟨hb, rfl⟩
    · exact ⟨h.pass_other _ hb hm, (passFirst_other b hm _).2⟩
    · exact ⟨h.clock _ _ _ _ hb hscheduled hknown, rfl⟩

/-- Before sessions begin their passes in a stir, those pass that are overdue. -/
theorem overdue (h : Steady n P) (hb : P b books) (hfree : n ∉ b.scheduled) :
    ∃ b' heard, b.runReady = ((beginAll b.ready b').1, heard ++ (beginAll b.ready b').2)
      ∧ P b' books ∧ Client.confirmsOf n heard = [] ∧ b'.now = b.now ∧ n ∉ b'.scheduled := by
  let late := (b.due.keep fun time _ => decide (time ≤ b.now)).values.flatten
  let kept : Broker := { b with due := b.due.keep fun time _ => decide (b.now < time) }
  have hlate : n ∉ late := fun hn => hfree (scheduled_keep (b := b) hn)
  obtain ⟨hpassed, hheard⟩ := h.passAll hlate
    (h.clock b.waits b.now b.ready _ hb (scheduled_keep (b := b)) known_keep)
  obtain ⟨hnow, hready⟩ := now_passAll late kept
  let b' : Broker := { (Broker.passAll late kept).1 with ready := [] }
  refine ⟨b', (Broker.passAll late kept).2, ?_, h.clock _ _ [] _ hpassed id id, hheard, hnow,
    fun hn => hfree ?_⟩
  · change ((beginAll (Broker.passAll late kept).1.ready b').1,
      (Broker.passAll late kept).2 ++ (beginAll (Broker.passAll late kept).1.ready b').2) = _
    rw [hready]
  · have hdue : b'.due = kept.due := due_passAll late kept
    unfold scheduled at hn
    rw [hdue] at hn
    exact scheduled_keep (b := b) hn

/-- In a stir a session that is ready begins its pass, and it is not disturbed by the others. -/
theorem runReady_settles (hP : Steady n P) (hQ : Steady n Q) (hpass : Begins n P Q)
    (hagain : Begins n Q Q) (hfree : n ∉ b.scheduled) (h : Q b books ∨ P b books ∧ n ∈ b.ready) :
    Q b.runReady.1 (books.handleAll (Client.confirmsOf n b.runReady.2)) := by
  have hsettle {b' : Broker} (h : Q b' books ∨ P b' books ∧ n ∈ b.ready) {heard : List Heard}
      (hheard : Client.confirmsOf n heard = []) : Q (beginAll b.ready b').1
        (books.handleAll (Client.confirmsOf n (heard ++ (beginAll b.ready b').2))) := by
    rw [confirmsOf_append, hheard]
    exact turns_settle (fun _ => rfl) beginAll_cons hP.spared hQ.spared hpass hagain h
  rcases h with hb | ⟨hb, hn⟩
  · obtain ⟨b', heard, heq, hb, hheard, -⟩ := hQ.overdue hb hfree
    rw [heq]
    exact hsettle (.inl hb) hheard
  · obtain ⟨b', heard, heq, hb, hheard, -⟩ := hP.overdue hb hfree
    rw [heq]
    exact hsettle (.inr ⟨hb, hn⟩) hheard

/-- What comes after the first stir of a wait leaves the session alone. -/
theorem later (h : Steady n P) {time : Nat} {ns : List Nat} (hns : n ∉ ns) (hb : P b books) :
    let later := Broker.passAll ns { b with
      now := time, due := b.due.keep fun t _ => decide (time < t) }
    P later.1 books ∧ Client.confirmsOf n later.2 = [] :=
  h.passAll hns (h.clock b.waits time b.ready _ hb (scheduled_keep (b := b)) known_keep)

theorem timeUp (h : Steady n P) (deadline : Nat) (hb : P b books) :
    P { b with now := deadline } books :=
  h.clock b.waits deadline b.ready b.due hb id id

/-- A session that is not to pass before the time is up is left alone until then. -/
theorem rests (h : Steady n P) (deadline : Nat) :
    ∀ {times : List (Nat × List Nat)} {b : Broker}, (∀ e ∈ times, n ∈ e.2 → deadline ≤ e.1) →
      P b books → Rests n P books (lullUntil deadline times b)
  | [], _, _, hb => h.timeUp deadline hb
  | (time, ns) :: times, b, htimes, hb => by
    obtain ⟨hns, htimes⟩ := List.forall_mem_cons.1 htimes
    unfold lullUntil
    split_ifs with hlate
    · exact h.timeUp deadline hb
    · obtain ⟨hlater, hheard⟩ := h.later (fun hn => hlate (hns hn)) hb
      rw [Rests, hheard]
      exact ⟨hlater, h.rests deadline htimes hlater⟩

/-- What holds with these books holds with them until the time is up. -/
theorem pinned (h : Steady n P) (books : Books Message) :
    Steady n fun b books' => P b books' ∧ books' = books where
  clock waits now ready due hb hfree hknown := ⟨h.clock waits now ready due hb.1 hfree hknown, hb.2⟩
  pass_other k hb hm := ⟨h.pass_other k hb.1 hm, hb.2⟩

variable {timeout : Span}

theorem unscheduled_entries {b : Broker} (h : n ∉ b.scheduled) {deadline : Nat} :
    ∀ e ∈ b.due.entries, n ∈ e.2 → deadline ≤ e.1 :=
  fun e he hn => absurd (mem_scheduled.2 ⟨e, he, hn⟩) h

/-- Without delay a session reports in the first stir. -/
theorem settles (hP : Steady n P) (hQ : Steady n Q) (hpass : Begins n P Q) (hagain : Begins n Q Q)
    (hfree : n ∉ b.scheduled) (hafter : ∀ {b books}, Q b books → n ∉ b.scheduled)
    (htimeout : timeout.nanos ≠ 0) (h : Q b books ∨ P b books ∧ n ∈ b.ready) :
    Settles n (fun _ _ => False) Q books (b.lull timeout) := by
  have hstir := runReady_settles hP hQ hpass hagain hfree h
  rw [lull_eq b htimeout]
  exact .inr ⟨hstir, (hQ.pinned _).rests _ (unscheduled_entries (hafter hstir)) ⟨hstir, rfl⟩⟩

/-- A wait for confirms of the session ends with what its pass makes of it: in time, if that is what
everything being answered for looks like, and late otherwise. -/
theorem awaits (hP : Steady n P) (hQ : Steady n Q) (hpass : Begins n P Q) (hagain : Begins n Q Q)
    (hfree : n ∉ b.scheduled) (hafter : ∀ {b books}, Q b books → n ∉ b.scheduled)
    (inTime : Bool) (hall : ∀ {b books}, Q b books → b.allConfirmed n = inTime)
    (hdone : ∀ {b books}, P b books → b.allConfirmed n = true → Q b books)
    (htimeout : timeout.nanos ≠ 0) {s : Session} (hs : b.openSession? n = .ok s)
    (hon : s.confirming = true) (h : Q b books ∨ P b books ∧ n ∈ b.ready) :
    ∃ heard b', b.awaitConfirms n timeout = ⟨.ok inTime, heard, [], b'⟩
      ∧ Q b' (books.handleAll (Client.confirmsOf n heard)) := by
  let b₁ : Broker := { b with waits := b.waits + 1 }
  have hcounted {R : Broker → Books Message → Prop} (hR : Steady n R) (hb : R b books) :
      R b₁ books :=
    hR.clock (b.waits + 1) b.now b.ready b.due hb id id
  replace h : Q b₁ books ∨ P b₁ books ∧ n ∈ b₁.ready :=
    h.imp (hcounted hQ) fun hb => ⟨hcounted hP hb.1, hb.2⟩
  rw [awaitConfirms_on hs hon]
  by_cases hconfirmed : b₁.allConfirmed n = true
  · have hb : Q b₁ books := h.elim id fun hb => hdone hb.1 hconfirmed
    obtain rfl : true = inTime := hconfirmed.symm.trans (hall hb)
    exact ⟨[], b₁, if_pos hconfirmed, hb⟩
  · have hsettles := settles hP hQ hpass hagain (b := b₁) hfree hafter htimeout h
    obtain ⟨heard, b', hwatch, hb'⟩ := hsettles.watch (fun hb => hb.elim) hall [] b₁
    rw [if_neg hconfirmed, hwatch]
    exact ⟨heard, b', rfl, hb'⟩

/-- So does a wait until nothing is in flight. -/
theorem lull (hP : Steady n P) (hQ : Steady n Q) (hpass : Begins n P Q) (hagain : Begins n Q Q)
    (hfree : n ∉ b.scheduled) (hafter : ∀ {b books}, Q b books → n ∉ b.scheduled)
    (htimeout : timeout.nanos ≠ 0) (h : Q b books ∨ P b books ∧ n ∈ b.ready) :
    (Client.link.lull timeout ⟨b, n⟩).Keeps (fun c books => c.session = n ∧ Q c.broker books)
      (fun c books => c.session = n ∧ Q c.broker books ∧ books.inFlight.drained = false) books :=
  (settles hP hQ hpass hagain hfree hafter htimeout h).keeps.imp
    (fun _ _ ⟨hsession, hb⟩ => ⟨hsession, hb.elim False.elim id⟩) fun _ _ hb => hb

end Steady

end ConfirmedDelivery.Broker
