import ConfirmedDelivery.Proofs.Broker.Deferred

/-!
# Passes to come

Whoever is to pass is open and has its confirms on, and what is put off is put off no longer than the
delay of its session takes from now on (`Punctual`). A call adds at most its own session to those that
are to pass; while somebody waits the clock moves, but never past a pass that is due. So it is in every
state that a broker comes to on a clock that stands still unless everyone waits
(`punctual_of_reachable`).
-/

namespace ConfirmedDelivery.Broker

/-- The sessions that are to pass, in the order in which they are to. -/
def coming (b : Broker) : List Nat := b.scheduled ++ b.ready

/-- The sessions whose passes are to report at a time. -/
def dueAt (b : Broker) (time : Nat) : List Nat := (b.due.get? time).getD []

theorem flatten_values_eq_nil {d : Dict Nat (List Nat)} :
    d.values.flatten = [] ↔ ∀ e ∈ d.entries, e.2 = [] := by
  unfold Dict.values
  rw [List.flatten_eq_nil_iff, List.forall_mem_map]

theorem coming_eq_nil {b : Broker} :
    b.coming = [] ↔ (∀ e ∈ b.due.entries, e.2 = []) ∧ b.ready = [] := by
  unfold coming scheduled
  rw [List.append_eq_nil_iff, flatten_values_eq_nil]

/-! ## Sessions that answer -/

/-- The session answers for what is sent on it, with this delay. -/
def Session.Live (s : Session) (delay : Span) : Prop :=
  s.closed = false ∧ s.confirming = true ∧ s.delay = delay

/-- Session `m` answers for what is sent on it, with this delay. -/
def Live (b : Broker) (m : Nat) (delay : Span) : Prop := ∃ s, b.session? m = some s ∧ s.Live delay

section Live

variable {b b' : Broker} {n m : Nat} {delay : Span}

theorem Live.congr (h : b.Live m delay) (hsessions : b'.sessions = b.sessions) :
    b'.Live m delay :=
  let ⟨s, hs, hlive⟩ := h
  ⟨s, (session?_congr hsessions m).trans hs, hlive⟩

theorem Live.updated {f : Session → Session} (h : b.Live m delay)
    (hsessions : b'.sessions = (b.update n f).sessions)
    (hf : ∀ s, b.session? m = some s → m = n → s.Live delay → (f s).Live delay) :
    b'.Live m delay := by
  obtain ⟨s, hs, hlive⟩ := h
  unfold Broker.Live
  rw [session?_updated hsessions, hs]
  split_ifs with hm
  · exact ⟨f s, rfl, hf s hs hm.symm hlive⟩
  · exact ⟨s, rfl, hlive⟩

theorem Live.push (h : b.Live m delay) (s : Session) : (b.push s).Live m delay := by
  obtain ⟨s', hs', hlive⟩ := h
  refine ⟨s', ?_, hlive⟩
  rwa [session?_push, if_neg fun hm => Nat.not_succ_le_self _ (hm ▸ (lt_of_session? hs').2)]

theorem Live.passFirst (h : b.Live m delay) (k : Nat) : (b.passFirst k n).1.Live m delay := by
  rcases hs : b.session? n with _ | s
  · rwa [passFirst_none hs]
  · rw [passFirst_exact hs]
    refine h.updated (f := fun _ => s.passed k) rfl fun s' hs' hm hlive => ?_
    obtain rfl := Option.some.inj (hs.symm.trans (hm ▸ hs'))
    exact hlive

theorem Live.interlude {heard : List Heard} (hidle : Interlude b heard b') (h : b.Live m delay) :
    b'.Live m delay := by
  induction hidle with
  | nothing => exact h
  | clock _ _ _ _ _ ih => exact ih (h.congr rfl)
  | pass k n _ ih => exact ih (h.passFirst k)

theorem Live.shut (h : b.Live m delay) (hm : m ≠ n) : (b.shut n).Live m delay :=
  h.updated (n := n) (f := Session.shut) rfl fun _ _ heq => absurd heq hm

end Live

/-! ## Who is to pass -/

/-- Whoever is to pass answers for what it is sent, with a delay that is `ok`, and is put off no longer
than that. -/
structure Answerable (ok : Span → Prop) (b : Broker) : Prop where
  ready : ∀ m ∈ b.ready, ∃ delay, ok delay ∧ b.Live m delay
  due : ∀ {time m}, m ∈ b.dueAt time →
    ∃ delay, ok delay ∧ b.Live m delay ∧ delay.nanos ≠ 0 ∧ time ≤ b.now + delay.waitMillis

section Answerable

variable {ok : Span → Prop} {b b' : Broker} {n : Nat}

theorem mem_scheduled_iff {m : Nat} : m ∈ b.scheduled ↔ ∃ time, m ∈ b.dueAt time := by
  rw [mem_scheduled]
  constructor
  · rintro ⟨e, he, hm⟩
    exact ⟨e.1, mem_due.2 ⟨e.2, he, hm⟩⟩
  · rintro ⟨time, hm⟩
    obtain ⟨ns, hns, hm⟩ := mem_due.1 hm
    exact ⟨(time, ns), hns, hm⟩

theorem Answerable.live (h : Answerable ok b) {m : Nat} (hm : m ∈ b.coming) :
    ∃ delay, ok delay ∧ b.Live m delay := by
  rcases List.mem_append.1 hm with hm | hm
  · obtain ⟨time, hm⟩ := mem_scheduled_iff.1 hm
    obtain ⟨delay, hok, hlive, -⟩ := h.due hm
    exact ⟨delay, hok, hlive⟩
  · exact h.ready m hm

theorem Answerable.imp {ok' : Span → Prop} (h : Answerable ok b)
    (hok : ∀ {m delay}, b.Live m delay → ok' delay) : Answerable ok' b where
  ready m hm :=
    let ⟨delay, _, hlive⟩ := h.ready m hm
    ⟨delay, hok hlive, hlive⟩
  due hm :=
    let ⟨delay, _, hlive, hlater⟩ := h.due hm
    ⟨delay, hok hlive, hlive, hlater⟩

/-- It remains so as long as nobody joins and whoever stays goes on to answer. -/
theorem Answerable.mono (h : Answerable ok b) (hready : b'.ready ⊆ b.ready)
    (hdue : ∀ {time m}, m ∈ b'.dueAt time → m ∈ b.dueAt time) (hnow : b.now ≤ b'.now)
    (hlive : ∀ {m delay}, m ∈ b'.coming → b.Live m delay → b'.Live m delay) : Answerable ok b' where
  ready m hm := by
    obtain ⟨delay, hok, hl⟩ := h.ready m (hready hm)
    exact ⟨delay, hok, hlive (List.mem_append_right _ hm) hl⟩
  due {time m} hm := by
    obtain ⟨delay, hok, hl, hdelay, htime⟩ := h.due (hdue hm)
    have hcoming : m ∈ b'.coming := List.mem_append_left _ (mem_scheduled_iff.2 ⟨time, hm⟩)
    exact ⟨delay, hok, hlive hcoming hl, hdelay, htime.trans (Nat.add_le_add_right hnow _)⟩

/-- Nobody has to answer where nobody is to pass. -/
theorem answerable_of_idle (h : b.coming = []) : Answerable ok b := by
  have hnone {m : Nat} : m ∉ b.scheduled ++ b.ready := fun hm => by
    unfold coming at h
    rw [h] at hm
    exact absurd hm List.not_mem_nil
  exact ⟨fun m hm => absurd (List.mem_append_right _ hm) hnone,
    fun {time m} hm => absurd (List.mem_append_left _ (mem_scheduled_iff.2 ⟨time, hm⟩)) hnone⟩

/-! ### Calls -/

theorem Answerable.congr (h : Answerable ok b) (hsessions : b'.sessions = b.sessions)
    (hready : b'.ready = b.ready) (hdue : b'.due = b.due) (hnow : b'.now = b.now) :
    Answerable ok b' := by
  refine h.mono (fun _ hm => hready ▸ hm) (fun hm => ?_) hnow.ge fun _ hl => hl.congr hsessions
  unfold dueAt at hm ⊢
  rwa [hdue] at hm

/-- A session that answers may be readied to pass. -/
theorem Answerable.readied (h : Answerable ok b) {delay : Span} (hok : ok delay)
    (hlive : b.Live n delay) : Answerable ok { b with ready := b.ready ++ [n] } where
  ready m hm := by
    rcases List.mem_append.1 hm with hm | hm
    · exact h.ready m hm
    · obtain rfl := List.mem_singleton.1 hm
      exact ⟨delay, hok, hlive⟩
  due := h.due

theorem Answerable.updated {f : Session → Session} (h : Answerable ok b)
    (hsessions : b'.sessions = (b.update n f).sessions) (hready : b'.ready = b.ready)
    (hdue : b'.due = b.due) (hnow : b'.now = b.now)
    (hf : ∀ s delay, b.session? n = some s → s.Live delay → (f s).Live delay) : Answerable ok b' := by
  refine h.mono (fun _ hm => hready ▸ hm) (fun hm => ?_) hnow.ge fun _ hl =>
    hl.updated hsessions fun s hs hm => hf s _ (hm ▸ hs)
  unfold dueAt at hm ⊢
  rwa [hdue] at hm

theorem Answerable.push (h : Answerable ok b) (s : Session) : Answerable ok (b.push s) :=
  h.mono (List.Subset.refl _) id (Nat.le_refl _) fun _ hl => hl.push s

theorem Answerable.listen (h : Answerable ok b) (l : Nat) : Answerable ok (b.listen n l) := by
  refine h.updated (n := n) (f := fun s => { s with listener := some l }) rfl ?_ ?_ ?_
    fun _ _ _ => id <;> cases n <;> rfl

theorem Answerable.enableConfirms (h : Answerable ok b) (hok : ok b.delay) :
    Answerable ok (b.enableConfirms n).state := by
  rcases hopen : b.openSession? n with fault | s
  · unfold Broker.enableConfirms
    rw [hopen]
    exact h
  obtain ⟨hs, hclosed⟩ := session?_of_openSession? hopen
  cases hon : s.confirming with
  | true =>
    unfold Broker.enableConfirms
    rw [hopen]
    dsimp only
    rw [if_pos hon]
    exact h
  | false =>
    rw [enableConfirms_eq hs hclosed hon]
    let b' : Broker := { b with sessions := (b.update n (Session.enabled b)).sessions }
    have hsessions : b'.sessions = (b.update n (Session.enabled b)).sessions := rfl
    have hlive : b'.Live n b.delay := by
      refine ⟨s.enabled b, ?_, hclosed, rfl, rfl⟩
      rw [session?_updated hsessions, if_pos rfl, hs]
      rfl
    have hb' : Answerable ok b' := by
      refine h.updated (n := n) (f := Session.enabled b) rfl rfl rfl rfl fun s' _ hs' hlive => ?_
      obtain rfl := Option.some.inj (hs.symm.trans hs')
      exact absurd (hon.symm.trans hlive.2.1) Bool.false_ne_true
    exact hb'.readied hok hlive

theorem Answerable.declare (h : Answerable ok b) (destination : String) :
    Answerable ok (b.declare n destination).state := by
  unfold Broker.declare
  split
  · exact h
  · exact h.congr rfl rfl rfl rfl

/-- Those who can begin to pass when session `n` was woken. -/
def woken (b : Broker) (n : Nat) : List Nat := if n ∈ b.coming then b.ready else b.ready ++ [n]

theorem wake_woken (b : Broker) (n : Nat) : b.wake n = { b with ready := b.woken n } := by
  have hmem : (b.ready.contains n || b.due.values.any (·.contains n)) = true ↔ n ∈ b.coming := by
    unfold coming scheduled
    rw [Bool.or_eq_true, List.mem_append, List.mem_flatten, List.any_eq_true, List.contains_iff_mem,
      or_comm]
    exact or_congr_left (exists_congr fun ns => and_congr_right fun _ => List.contains_iff_mem)
  unfold wake woken
  by_cases hn : n ∈ b.coming
  · rw [if_pos (hmem.2 hn), if_pos hn]
  · rw [if_neg fun h => hn (hmem.1 h), if_neg hn]

/-- Whoever can begin to pass after a message was sent could do so before, or is woken by it. -/
theorem ready_transmit (b : Broker) (n : Nat) (destination : String) (properties : Properties)
    (body : ByteArray) : (b.transmit n destination properties body).state.ready = b.ready
      ∨ (b.transmit n destination properties body).state.ready = b.woken n := by
  unfold transmit
  rcases b.openSession? n with fault | s
  · exact .inl rfl
  dsimp only
  split_ifs
  · exact .inl rfl
  · exact .inl rfl
  · right
    rw [wake_woken]
    cases n <;> rfl
  · exact .inl rfl

theorem Answerable.transmit (h : Answerable ok b) (hn : ∀ delay, b.Live n delay → ok delay)
    (destination : String) (properties : Properties) (body : ByteArray) :
    Answerable ok (b.transmit n destination properties body).state := by
  have hready := ready_transmit b n destination properties body
  rcases transmit_cases b n destination properties body with
    ⟨fault, transmits, heq⟩ | ⟨s, transmits, hs, hopen, ⟨hon, ready, heq⟩ | ⟨-, heq⟩⟩
  · rw [heq]
    exact h.congr rfl rfl rfl rfl
  · rw [heq] at hready ⊢
    let d := b.sentAs n s.nextTag destination properties body
    let b' : Broker := { b with
      sessions := (b.update n (Session.sent d)).sessions
      attempts := Tally.bump properties.messageId b.attempts
      deliveries := b.deliveries ++ [d]
      transmits }
    have hlive : b'.Live n s.delay := Live.updated (f := Session.sent d) ⟨s, hs, hopen, hon, rfl⟩ rfl
      fun _ _ _ => id
    have hb' : Answerable ok b' :=
      h.updated (f := Session.sent d) rfl rfl rfl rfl fun _ _ _ => id
    have hready : ready = b.ready ∨ ready = b.ready ++ [n] := by
      refine hready.elim .inl fun hwoken => ?_
      unfold woken at hwoken
      split_ifs at hwoken
      · exact .inl hwoken
      · exact .inr hwoken
    rcases hready with rfl | rfl
    · exact hb'
    · exact hb'.readied (hn s.delay ⟨s, hs, hopen, hon, rfl⟩) hlive
  · rw [heq]
    exact h.congr rfl rfl rfl rfl

theorem dueAt_shut (time : Nat) : (b.shut n).dueAt time = (b.dueAt time).filter (· ≠ n) := by
  have hdue : (b.shut n).due = b.due.mapValues fun _ ns => ns.filter (· ≠ n) := by
    unfold shut
    rw [update_eq]
    rfl
  unfold dueAt
  rw [hdue, Dict.get?_mapValues]
  cases b.due.get? time <;> rfl

theorem ready_shut : (b.shut n).ready = b.ready.filter (· ≠ n) := by
  unfold shut
  rw [update_eq]
  rfl

theorem not_mem_coming_shut : n ∉ (b.shut n).coming := fun hn => by
  rcases List.mem_append.1 hn with hn | hn
  · obtain ⟨time, hn⟩ := mem_scheduled_iff.1 hn
    rw [dueAt_shut] at hn
    simpa using List.of_mem_filter hn
  · rw [ready_shut] at hn
    simpa using List.of_mem_filter hn

/-- A session that is closed does not pass, and so need not answer. -/
theorem Answerable.shut (h : Answerable ok b) : Answerable ok (b.shut n) := by
  refine h.mono ?_ (fun {time m} hm => ?_) ?_ fun hm hl =>
    hl.shut fun heq => not_mem_coming_shut (heq ▸ hm)
  · rw [ready_shut]
    exact List.filter_subset_self _
  · rw [dueAt_shut] at hm
    exact List.mem_of_mem_filter hm
  · unfold Broker.shut
    rw [update_eq]
    exact Nat.le_refl _

/-! ### Waits -/

theorem Answerable.passFirst (h : Answerable ok b) (k m : Nat) : Answerable ok (b.passFirst k m).1 := by
  obtain ⟨hnow, hready⟩ := now_passFirst b k m
  refine h.mono (fun _ hm => hready ▸ hm) (fun hm => ?_) hnow.ge fun _ hl => hl.passFirst k
  unfold dueAt at hm ⊢
  rwa [due_passFirst] at hm

theorem Answerable.passAll : ∀ (ns : List Nat) {b : Broker}, Answerable ok b →
    Answerable ok (passAll ns b).1
  | [], _, h => h
  | n :: ns, b, h => Answerable.passAll ns (h.passFirst (b.queued n) n)

/-- As time goes on some passes are no longer to come. -/
theorem Answerable.keep (h : Answerable ok b) (p : Nat → Bool) {now : Nat} (hnow : b.now ≤ now) :
    Answerable ok { b with now, due := b.due.keep fun time _ => p time } := by
  refine h.mono (List.Subset.refl _) (fun hm => ?_) hnow fun _ hl => hl.congr rfl
  obtain ⟨ns, hns, hm⟩ := mem_due.1 hm
  exact mem_due.2 ⟨ns, List.mem_of_mem_filter hns, hm⟩

theorem Answerable.beginPass (h : Answerable ok b) {delay : Span} (hok : ok delay)
    (hlive : b.Live n delay) : Answerable ok (b.beginPass n).1 := by
  have hnext {m : Nat} {delay' : Span} (hl : b.Live m delay') : (b.beginPass n).1.Live m delay' :=
    hl.interlude (interlude_beginPass b n)
  obtain ⟨s, hs, hanswers⟩ := hlive
  unfold Broker.beginPass at hnext ⊢
  rw [hs] at hnext ⊢
  dsimp only at hnext ⊢
  split_ifs at hnext ⊢ with hempty hprompt
  · exact h
  · exact h.passFirst _ n
  · refine ⟨fun m hm => ?_, fun {time m} hm => ?_⟩
    · obtain ⟨delay', hok', hl⟩ := h.ready m hm
      exact ⟨delay', hok', hnext hl⟩
    · rcases mem_due_insert.1 hm with hm | ⟨rfl, rfl⟩
      · obtain ⟨delay', hok', hl, hlater⟩ := h.due hm
        exact ⟨delay', hok', hnext hl, hlater⟩
      · obtain ⟨hclosed, hon, rfl⟩ := hanswers
        exact ⟨s.delay, hok, hnext ⟨s, hs, hclosed, hon, rfl⟩, hprompt, Nat.le_refl _⟩

theorem Answerable.beginAll : ∀ {ns : List Nat} {b : Broker},
    (∀ m ∈ ns, ∃ delay, ok delay ∧ b.Live m delay) → Answerable ok b → Answerable ok (beginAll ns b).1
  | [], _, _, h => h
  | n :: ns, b, hns, h => by
    obtain ⟨⟨delay, hok, hlive⟩, hns⟩ := List.forall_mem_cons.1 hns
    refine Answerable.beginAll (b := (b.beginPass n).1) (fun m hm => ?_) (h.beginPass hok hlive)
    obtain ⟨delay', hok', hl⟩ := hns m hm
    exact ⟨delay', hok', hl.interlude (interlude_beginPass b n)⟩

theorem Answerable.runReady (h : Answerable ok b) : Answerable ok b.runReady.1 := by
  have hpassed := (h.keep (fun time => decide (b.now < time)) (Nat.le_refl _)).passAll
    (b.due.keep fun time _ => decide (time ≤ b.now)).values.flatten
  refine Answerable.beginAll (b := { (Broker.passAll _ _).1 with ready := [] }) (fun m hm => ?_) ?_
  · obtain ⟨delay, hok, hl⟩ := hpassed.ready m hm
    exact ⟨delay, hok, hl.congr rfl⟩
  · exact hpassed.mono (List.nil_subset _) id (Nat.le_refl _) fun _ hl => hl.congr rfl

end Answerable

/-! ## The clock -/

/-- Whoever is to pass answers, and no pass is due at a time that is over. -/
structure Punctual (b : Broker) : Prop extends Answerable (fun _ => True) b where
  ahead : ∀ e ∈ b.due.entries, b.now ≤ e.1

section Punctual

variable {b b' : Broker}

theorem now_beginAll : ∀ (ns : List Nat) (b : Broker), (beginAll ns b).1.now = b.now
  | [], _ => rfl
  | n :: ns, b => (now_beginAll ns (b.beginPass n).1).trans (now_beginPass b n)

/-- What is put off is put off to a time to come. -/
theorem ahead_beginPass (h : ∀ e ∈ b.due.entries, b.now ≤ e.1) (n : Nat) :
    ∀ e ∈ (b.beginPass n).1.due.entries, b.now ≤ e.1 := by
  unfold beginPass
  rcases b.session? n with _ | s
  · exact h
  · dsimp only
    split_ifs
    · exact h
    · rw [pass, due_passFirst]
      exact h
    · intro e he
      rcases Dict.mem_entries_insert.1 he with rfl | ⟨he, -⟩
      · exact Nat.le_add_right _ _
      · exact h e he

theorem ahead_beginAll : ∀ (ns : List Nat) {b : Broker}, (∀ e ∈ b.due.entries, b.now ≤ e.1) →
    ∀ e ∈ (beginAll ns b).1.due.entries, b.now ≤ e.1
  | [], _, h => h
  | n :: ns, b, h => by
    have hnext := ahead_beginPass h n
    rw [← now_beginPass b n] at hnext ⊢
    exact ahead_beginAll ns hnext

theorem Punctual.runReady (h : Punctual b) : Punctual b.runReady.1 ∧ b.runReady.1.now = b.now := by
  let late := (b.due.keep fun time _ => decide (time ≤ b.now)).values.flatten
  let kept : Broker := { b with due := b.due.keep fun time _ => decide (b.now < time) }
  let idle : Broker := { (passAll late kept).1 with ready := [] }
  have hnow : idle.now = b.now := (now_passAll late kept).1
  have hidle : ∀ e ∈ idle.due.entries, idle.now ≤ e.1 := by
    have hdue : idle.due = kept.due := due_passAll late kept
    rw [hdue, hnow]
    exact fun e he => h.ahead e (List.mem_of_mem_filter he)
  have hstirred : b.runReady.1.now = idle.now := now_beginAll _ idle
  refine ⟨⟨h.toAnswerable.runReady, ?_⟩, hstirred.trans hnow⟩
  rw [hstirred]
  exact ahead_beginAll _ hidle

theorem later_entries {time : Nat} {ns : List Nat} {times : List (Nat × List Nat)}
    (h : b.due.entries = (time, ns) :: times) :
    (b.due.keep fun t _ => decide (time < t)).entries = times := by
  obtain ⟨hlater, -⟩ := List.pairwise_cons.1 (h ▸ b.due.ascending)
  rw [Dict.entries_keep, h, List.filter_cons_of_neg (by simp)]
  exact List.filter_eq_self.2 fun e he => decide_eq_true (hlater e he)

/-- The clock is set to the time of the next pass, or to the deadline if that is not later. -/
theorem Punctual.lullUntil {deadline : Nat} : ∀ {times : List (Nat × List Nat)} {b b' : Broker},
    Punctual b → b.due.entries = times → b.now ≤ deadline →
    (lullUntil deadline times b).Visits b' → Punctual b'
  | [], b, _, h, htimes, hnow, hvisits => by
    obtain rfl := hvisits
    refine ⟨h.toAnswerable.mono (List.Subset.refl _) id hnow fun _ hl => hl.congr rfl, fun e he => ?_⟩
    rw [htimes] at he
    exact absurd he List.not_mem_nil
  | (time, ns) :: times, b, b', h, htimes, hnow, hvisits => by
    have hhead : (time, ns) ∈ b.due.entries := htimes ▸ List.mem_cons_self
    have hlater := (List.pairwise_cons.1 (htimes ▸ b.due.ascending)).1
    unfold Broker.lullUntil at hvisits
    split_ifs at hvisits with hover
    · obtain rfl := hvisits
      refine ⟨h.toAnswerable.mono (List.Subset.refl _) id hnow fun _ hl => hl.congr rfl, fun e he => ?_⟩
      rw [htimes] at he
      rcases List.mem_cons.1 he with rfl | he
      · exact hover
      · exact hover.trans (hlater e he).le
    · let moved : Broker := { b with now := time, due := b.due.keep fun t _ => decide (time < t) }
      have hmoved : (passAll ns moved).1.due.entries = times := by
        rw [due_passAll]
        exact later_entries htimes
      have hnow' : (passAll ns moved).1.now = time := (now_passAll ns moved).1
      have hpassed : Punctual (passAll ns moved).1 := by
        refine ⟨(h.toAnswerable.keep (fun t => decide (time < t)) (h.ahead _ hhead)).passAll ns,
          fun e he => ?_⟩
        rw [hmoved] at he
        rw [hnow']
        exact (hlater e he).le
      rcases hvisits with rfl | hvisits
      · exact hpassed
      · exact hpassed.lullUntil hmoved (hnow'.trans_le (Nat.le_of_not_le hover)) hvisits

theorem Punctual.lull (h : Punctual b) {timeout : Span} (hvisits : (b.lull timeout).Visits b') :
    Punctual b' := by
  unfold Broker.lull at hvisits
  dsimp only at hvisits
  split_ifs at hvisits
  · obtain rfl := hvisits
    exact h
  · obtain ⟨hready, hnow⟩ := h.runReady
    rcases hvisits with rfl | hvisits
    · exact hready
    · exact hready.lullUntil rfl (hnow.trans_le (Nat.le_add_right _ _)) hvisits

theorem punctual_of_reachable (h : Reachable Paused b) : Punctual b := by
  induction h with
  | start => exact ⟨answerable_of_idle rfl, fun e he => absurd he List.not_mem_nil⟩
  | configured _ _ _ _ _ _ ih => exact ⟨ih.toAnswerable.congr rfl rfl rfl rfl, ih.ahead⟩
  | @openSession b _ ih =>
    rcases openSession_cases b with ⟨-, heq⟩ | ⟨-, heq⟩
    · rw [heq]
      exact ih
    · rw [heq]
      exact ⟨ih.toAnswerable.push _, ih.ahead⟩
  | listen n l _ ih => exact ⟨ih.toAnswerable.listen l, by cases n <;> exact ih.ahead⟩
  | enableConfirms n _ ih =>
    refine ⟨ih.toAnswerable.enableConfirms trivial, ?_⟩
    unfold Broker.enableConfirms
    split
    · exact ih.ahead
    · split_ifs
      · exact ih.ahead
      · cases n <;> exact ih.ahead
  | declare n destination _ ih =>
    refine ⟨ih.toAnswerable.declare destination, ?_⟩
    unfold Broker.declare
    split <;> exact ih.ahead
  | @transmit b n destination properties body _ ih =>
    refine ⟨ih.toAnswerable.transmit (fun _ _ => trivial) destination properties body, ?_⟩
    rcases transmit_cases b n destination properties body with
      ⟨fault, transmits, heq⟩ | ⟨s, transmits, -, -, ⟨-, ready, heq⟩ | ⟨-, heq⟩⟩ <;> rw [heq] <;>
        exact ih.ahead
  | close n _ ih =>
    unfold Broker.close
    split
    · exact ih
    · exact ⟨ih.toAnswerable.shut, ahead_shut ih.ahead n⟩
  | discard n _ ih =>
    unfold Broker.discard
    split
    · exact ih
    · exact ⟨ih.toAnswerable.shut, ahead_shut ih.ahead n⟩
  | @idle b b' _ hpaused ih =>
    obtain ⟨waits, timeout, hvisits⟩ := hpaused
    have hwaiting : Punctual ({ b with waits } : Broker) :=
      ⟨ih.toAnswerable.congr rfl rfl rfl rfl, ih.ahead⟩
    exact hwaiting.lull hvisits
where
  ahead_shut {b : Broker} (h : ∀ e ∈ b.due.entries, b.now ≤ e.1) (n : Nat) :
      ∀ e ∈ (b.shut n).due.entries, (b.shut n).now ≤ e.1 := by
    unfold Broker.shut
    rw [update_eq]
    intro e he
    obtain ⟨e', he', rfl⟩ := List.mem_map.1 he
    exact h e' he'

end Punctual

end ConfirmedDelivery.Broker
