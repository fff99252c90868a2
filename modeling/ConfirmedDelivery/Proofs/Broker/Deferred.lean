import ConfirmedDelivery.Proofs.Broker.Stirring

/-!
# Passes that are put off

Where there is a delay, the first stir of a wait only puts the pass of a session off (`PutOff`). If the
wait outlasts the delay, the session reports at its time all that was sent until then, and whoever
waits sees what he would have seen without delay, only later (`Aloof.settles`). If the time is up before,
the session does not report at all (`Aloof.blocked`).
-/

namespace ConfirmedDelivery.Broker

/-- What neither the passes of other sessions nor the clock change, of the broker and of the books that
take in the confirms of session `n`, whenever that session is to pass. -/
structure Aloof (n : Nat) (P : Broker → Books Message → Prop) : Prop where
  clock : ∀ {b : Broker} {books} (waits now : Nat) (ready : List Nat) (due : Dict Nat (List Nat)),
    P b books → (Known b → Known { b with waits, now, ready, due }) →
    P { b with waits, now, ready, due } books
  pass_other : ∀ {b books} {m : Nat} (k : Nat), P b books → m ≠ n → P (b.passFirst k m).1 books

/-- Session `n` is to pass at this time and at no other. -/
def PutOff (n time : Nat) (b : Broker) : Prop :=
  ∀ t, n ∈ (b.due.get? t).getD [] ↔ t = time

section PutOff

variable {n m time : Nat} {b : Broker}

theorem mem_due {t : Nat} :
    n ∈ (b.due.get? t).getD [] ↔ ∃ ns, (t, ns) ∈ b.due.entries ∧ n ∈ ns := by
  rcases ht : b.due.get? t with _ | ns
  · refine ⟨fun hn => absurd hn List.not_mem_nil, fun ⟨ns, hns, _⟩ => ?_⟩
    rw [Dict.get?_eq_some.2 hns] at ht
    cases ht
  · refine ⟨fun hn => ⟨ns, Dict.get?_eq_some.1 ht, hn⟩, fun ⟨ns', hns', hn⟩ => ?_⟩
    rw [Dict.get?_eq_some.2 hns'] at ht
    obtain rfl := Option.some.inj ht
    exact hn

theorem PutOff.mem_entries (h : PutOff n time b) {e : Nat × List Nat} (he : e ∈ b.due.entries) :
    n ∈ e.2 → e.1 = time :=
  fun hn => (h e.1).1 (mem_due.2 ⟨e.2, he, hn⟩)

theorem PutOff.entry (h : PutOff n time b) : ∃ ns, (time, ns) ∈ b.due.entries ∧ n ∈ ns :=
  mem_due.1 ((h time).2 rfl)

theorem PutOff.congr {b' : Broker} (h : PutOff n time b) (hdue : b'.due = b.due) :
    PutOff n time b' := by
  unfold PutOff
  rw [hdue]
  exact h

/-- Who is to pass when a session has been put off to time `t`. -/
theorem mem_due_insert {t t' : Nat} :
    n ∈ ((b.due.insert t ((b.due.get? t).getD [] ++ [m])).get? t').getD []
      ↔ n ∈ (b.due.get? t').getD [] ∨ n = m ∧ t' = t := by
  rw [Dict.get?_insert]
  by_cases ht : t' = t
  · rw [if_pos ht, Option.getD_some, List.mem_append, List.mem_singleton, ht]
    simp
  · rw [if_neg ht]
    simp [ht]

theorem not_mem_due (h : n ∉ b.scheduled) (t : Nat) : n ∉ (b.due.get? t).getD [] := fun hn =>
  have ⟨ns, hns, hn⟩ := mem_due.1 hn
  h (mem_scheduled.2 ⟨(t, ns), hns, hn⟩)

theorem beginPass_empty {s : Session} (hs : b.session? n = some s) (hqueue : s.queue = []) :
    b.beginPass n = (b, []) := by
  unfold beginPass
  rw [hs]
  dsimp only
  rw [hqueue]
  rfl

theorem beginPass_prompt {s : Session} (hs : b.session? n = some s) (hqueue : s.queue ≠ [])
    (hdelay : s.delay.nanos = 0) : b.beginPass n = b.pass n := by
  unfold beginPass
  rw [hs]
  dsimp only
  rw [if_neg fun hempty => hqueue (List.isEmpty_iff.1 hempty), if_pos hdelay]

/-- To begin the pass of a session means to put it off, if there is a delay and something to take in. -/
theorem beginPass_later {s : Session} (hs : b.session? n = some s) (hqueue : s.queue ≠ [])
    (hdelay : s.delay.nanos ≠ 0) : b.beginPass n = ({ b with
      due := b.due.insert (b.now + s.delay.waitMillis)
        ((b.due.get? (b.now + s.delay.waitMillis)).getD [] ++ [n]) }, []) := by
  unfold beginPass
  rw [hs]
  dsimp only
  rw [if_neg (fun hempty => hqueue (List.isEmpty_iff.1 hempty)), if_neg hdelay]

theorem now_beginPass (b : Broker) (n : Nat) : (b.beginPass n).1.now = b.now := by
  unfold beginPass
  rcases b.session? n with _ | s
  · rfl
  · dsimp only
    split_ifs
    · rfl
    · exact (now_passFirst b _ n).1
    · rfl

/-- Other sessions may be put off to whatever time. -/
theorem PutOff.begin_other (h : PutOff n time b) (hm : m ≠ n) : PutOff n time (b.beginPass m).1 := by
  unfold beginPass
  rcases b.session? m with _ | s
  · exact h
  · dsimp only
    split_ifs
    · exact h
    · exact h.congr (due_passFirst b _ m)
    · exact fun t => mem_due_insert.trans
        ⟨fun hn => hn.elim (h t).1 fun hother => absurd hother.1.symm hm, fun ht => .inl ((h t).2 ht)⟩

/-- A session is put off once, to the time at which its delay is over. -/
theorem putOff_beginPass {s : Session} (hs : b.session? n = some s) (hqueue : s.queue ≠ [])
    (hdelay : s.delay.nanos ≠ 0)
    (h : n ∉ b.scheduled ∨ PutOff n (b.now + s.delay.waitMillis) b) :
    PutOff n (b.now + s.delay.waitMillis) (b.beginPass n).1 := by
  rw [beginPass_later hs hqueue hdelay]
  refine fun t => mem_due_insert.trans ⟨?_, fun ht => .inr ⟨rfl, ht⟩⟩
  rintro (hn | ⟨-, ht⟩)
  · exact h.elim (fun hfree => absurd hn (not_mem_due hfree t)) fun hput => (hput t).1 hn
  · exact ht

/-- Once the time has come nothing is put off any more. -/
theorem PutOff.over (h : PutOff n time b) {now : Nat} :
    n ∉ ({ b with now, due := b.due.keep fun t _ => decide (time < t) } : Broker).scheduled := by
  intro hn
  obtain ⟨e, he, hn⟩ := mem_scheduled.1 hn
  obtain ⟨he, hlater⟩ := List.mem_filter.1 he
  have heq := h.mem_entries he hn
  have hlater := of_decide_eq_true hlater
  omega

/-- An earlier time leaves it put off. -/
theorem PutOff.earlier (h : PutOff n time b) {now t : Nat} (ht : t < time) :
    PutOff n time { b with now, due := b.due.keep fun t' _ => decide (t < t') } := by
  intro t'
  rw [← h t', mem_due, mem_due]
  refine exists_congr fun ns => and_congr_left fun hn => ?_
  rw [Dict.entries_keep, List.mem_filter]
  refine ⟨And.left, fun hns => ⟨hns, decide_eq_true ?_⟩⟩
  have heq := h.mem_entries hns hn
  dsimp only at heq ⊢
  omega

end PutOff

namespace Aloof

variable {n : Nat} {P Q : Broker → Books Message → Prop} {b : Broker} {books : Books Message}

theorem steady (h : Aloof n P) : Steady n P where
  clock waits now ready due hb _ hknown := h.clock waits now ready due hb hknown
  pass_other := h.pass_other

theorem unscheduled (h : Aloof n P) : Steady n fun b books => P b books ∧ n ∉ b.scheduled where
  clock waits now ready due hb hfree hknown :=
    ⟨h.clock waits now ready due hb.1 hknown, fun hn => hb.2 (hfree hn)⟩
  pass_other k hb hm := ⟨h.pass_other k hb.1 hm, by
    unfold scheduled
    rw [due_passFirst]
    exact hb.2⟩

theorem spared_pass (h : Aloof n P) : Spared pass n P := fun {b _ m} hb hm =>
  ⟨h.pass_other (b.queued m) hb hm, (passFirst_other b hm _).2⟩

variable {delay : Span}

/-- A session with something to take in and a delay. -/
abbrev Slow (n : Nat) (delay : Span) (P : Broker → Books Message → Prop) : Prop :=
  ∀ {b books}, P b books → ∃ s, b.session? n = some s ∧ s.queue ≠ [] ∧ s.delay = delay

/-- The first stir of a wait puts off the pass of a session with a delay, and it hears nothing. -/
theorem runReady_defers (h : Aloof n P) (hslow : Slow n delay P) (hdelay : delay.nanos ≠ 0)
    (hb : P b books) (hfree : n ∉ b.scheduled) (hready : n ∈ b.ready) :
    P b.runReady.1 (books.handleAll (Client.confirmsOf n b.runReady.2))
      ∧ PutOff n (b.now + delay.waitMillis) b.runReady.1 := by
  let Before : Broker → Books Message → Prop := fun b' books =>
    (P b' books ∧ n ∉ b'.scheduled) ∧ b'.now = b.now
  let After : Broker → Books Message → Prop := fun b' books =>
    (P b' books ∧ PutOff n (b.now + delay.waitMillis) b') ∧ b'.now = b.now
  have hbefore : Spared beginPass n Before := fun {b' _ m} ⟨hb, hnow⟩ hm => by
    obtain ⟨hb, hheard⟩ := h.unscheduled.spared hb hm
    exact ⟨⟨hb, (now_beginPass b' m).trans hnow⟩, hheard⟩
  have hafter : Spared beginPass n After := fun {b' _ m} ⟨⟨hb, hput⟩, hnow⟩ hm => by
    obtain ⟨hb, hheard⟩ := h.steady.spared hb hm
    exact ⟨⟨⟨hb, hput.begin_other hm⟩, (now_beginPass b' m).trans hnow⟩, hheard⟩
  have hturn {b' : Broker} {books : Books Message} (hb : P b' books) (hnow : b'.now = b.now)
      (hput : n ∉ b'.scheduled ∨ PutOff n (b.now + delay.waitMillis) b') :
      After (b'.beginPass n).1 (books.handleAll (Client.confirmsOf n (b'.beginPass n).2)) := by
    obtain ⟨s, hs, hqueue, rfl⟩ := hslow hb
    rw [← hnow] at hput
    have hput := putOff_beginPass hs hqueue hdelay hput
    have hknown := fun h : Known b' => known_beginPass h n
    rw [hnow] at hput
    rw [beginPass_later hs hqueue hdelay] at hput hknown ⊢
    exact ⟨⟨h.clock _ _ _ _ hb hknown, hput⟩, hnow⟩
  obtain ⟨b', heard, heq, hb', hheard, hnow, hfree'⟩ := h.steady.overdue hb hfree
  have hsettles := turns_settle (P := Before) (Q := After) (fun _ => rfl) beginAll_cons hbefore hafter
    (fun ⟨⟨hb, hfree⟩, hnow⟩ => hturn hb hnow (.inl hfree))
    (fun ⟨⟨hb, hput⟩, hnow⟩ => hturn hb hnow (.inr hput))
    (.inr ⟨⟨⟨hb', hfree'⟩, hnow⟩, hready⟩)
  rw [heq, confirmsOf_append, hheard]
  exact hsettles.1

/-- A session that is put off reports when its time has come, unless the wait is over by then. -/
theorem settles_lullUntil (hP : Aloof n P) (hQ : Aloof n Q) (hpass : Turns pass n P Q)
    (hagain : Turns pass n Q Q) {time deadline : Nat} (htime : time < deadline) :
    ∀ {times : List (Nat × List Nat)} {b : Broker}, times.Pairwise (fun e e' => e.1 < e'.1) →
      (∀ e ∈ times, n ∈ e.2 → e.1 = time) → (∃ ns, (time, ns) ∈ times ∧ n ∈ ns) →
      PutOff n time b → P b books →
      Settles n P (fun b books => Q b books ∧ n ∉ b.scheduled) books (lullUntil deadline times b)
  | [], _, _, _, ⟨_, hmem, _⟩, _, _ => absurd hmem List.not_mem_nil
  | (t, ns) :: times, b, hasc, htimes, ⟨ns', hmem, hn⟩, hput, hb => by
    obtain ⟨hhead, hasc⟩ := List.pairwise_cons.1 hasc
    obtain ⟨hns, htimes⟩ := List.forall_mem_cons.1 htimes
    have hle : t ≤ time := by
      rcases List.mem_cons.1 hmem with heq | hmem
      · exact (congrArg Prod.fst heq).ge
      · exact (hhead _ hmem).le
    unfold lullUntil
    rw [if_neg (Nat.not_le_of_lt (Nat.lt_of_le_of_lt hle htime))]
    let b₁ : Broker := { b with now := t, due := b.due.keep fun t' _ => decide (t < t') }
    have hb₁ : P b₁ books := hP.clock b.waits t b.ready _ hb known_keep
    rcases Nat.lt_or_eq_of_le hle with hlt | rfl
    · -- other sessions report before
      have hns : n ∉ ns := fun hn => Nat.ne_of_lt hlt (hns hn)
      obtain ⟨hpassed, hheard⟩ := hP.steady.passAll hns hb₁
      rw [Settles, hheard]
      refine .inl ⟨hpassed, hP.settles_lullUntil hQ hpass hagain htime hasc htimes ⟨ns', ?_, hn⟩
        ((hput.earlier hlt).congr (due_passAll ns b₁)) hpassed⟩
      exact (List.mem_cons.1 hmem).resolve_left fun heq =>
        Nat.ne_of_gt hlt (congrArg Prod.fst heq)
    · have hns : n ∈ ns := by
        rcases List.mem_cons.1 hmem with heq | hmem
        · obtain rfl : ns' = ns := congrArg Prod.snd heq
          exact hn
        · exact absurd (hhead _ hmem) (Nat.lt_irrefl _)
      have hpassed := turns_settle (fun _ => rfl) passAll_cons hP.spared_pass hQ.spared_pass hpass
        hagain (.inr ⟨hb₁, hns⟩)
      have hfree : n ∉ (passAll ns b₁).1.scheduled := by
        unfold scheduled
        rw [due_passAll]
        exact hput.over
      refine .inr ⟨⟨hpassed, hfree⟩, (hQ.unscheduled.pinned _).rests deadline (fun e he hn => ?_)
        ⟨⟨hpassed, hfree⟩, rfl⟩⟩
      exact absurd (htimes e he hn) (Nat.ne_of_gt (hhead e he))

variable {timeout : Span}

/-- A wait that outlasts the delay sees the session report. -/
theorem settles (hP : Aloof n P) (hQ : Aloof n Q) (hpass : Turns pass n P Q)
    (hagain : Turns pass n Q Q) (hslow : Slow n delay P) (hdelay : delay.nanos ≠ 0)
    (hlong : delay.waitMillis < timeout.waitMillis) (htimeout : timeout.nanos ≠ 0) (hb : P b books)
    (hfree : n ∉ b.scheduled) (hready : n ∈ b.ready) :
    Settles n P (fun b books => Q b books ∧ n ∉ b.scheduled) books (b.lull timeout) := by
  obtain ⟨hstir, hput⟩ := hP.runReady_defers hslow hdelay hb hfree hready
  rw [lull_eq b htimeout]
  exact .inl ⟨hstir, hP.settles_lullUntil hQ hpass hagain (Nat.add_lt_add_left hlong b.now)
    b.runReady.1.due.ascending (fun _ he => hput.mem_entries he) hput.entry hput hstir⟩

/-- During a wait that the delay outlasts the session does not report. -/
theorem blocked (h : Aloof n P) (hslow : Slow n delay P) (hdelay : delay.nanos ≠ 0)
    (hshort : timeout.waitMillis ≤ delay.waitMillis) (htimeout : timeout.nanos ≠ 0) (hb : P b books)
    (hfree : n ∉ b.scheduled) (hready : n ∈ b.ready) : Rests n P books (b.lull timeout) := by
  obtain ⟨hstir, hput⟩ := h.runReady_defers hslow hdelay hb hfree hready
  rw [lull_eq b htimeout]
  refine ⟨hstir, h.steady.rests _ (fun e he hn => ?_) hstir⟩
  rw [hput.mem_entries he hn]
  exact Nat.add_le_add_left hshort b.now

end Aloof

end ConfirmedDelivery.Broker
