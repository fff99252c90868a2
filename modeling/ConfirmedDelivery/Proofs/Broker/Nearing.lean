import ConfirmedDelivery.Proofs.Broker.Timeless

/-!
# Waits in which all have their turn

If all who are to pass have the same delay, they pass in the order in which they came to it, whenever
that is. So what is still to come of their passes is at any time of a wait the rest of what was to come
when it began (`Nearing`); and if the wait outlasts the delay, all have passed before it is over
(`settles_lull`). The session in use, which is the last one of them, does not notice any of it before.
-/

namespace ConfirmedDelivery.Broker

variable {n m : Nat} {b b₀ : Broker} {books books₀ : Books Message} {ms ns : List Nat}

/-- In the course of a wait that began with broker `b₀` and these books: session `n` had no turn yet. -/
def Waiting (n : Nat) (b₀ : Broker) (books₀ : Books Message) (b : Broker) (books : Books Message) :
    Prop :=
  b.session? n = b₀.session? n ∧ books = books₀

/-- In the course of a wait that began with broker `b₀` and these books, in which session `n` is the last
one to have its turn, if it has one at all: the sessions `ns` still have theirs. -/
structure Nearing (n : Nat) (b₀ : Broker) (books₀ : Books Message) (ns : List Nat) (b : Broker)
    (books : Books Message) : Prop where
  since : ∃ heard, Interlude b₀ heard b
  broker : (passAll ns b.bare).1 = b₀.outcome.1
  heard : books.handleAll (Client.confirmsOf n (passAll ns b.bare).2)
    = books₀.handleAll (Client.confirmsOf n b₀.outcome.2)
  waiting : ns = [] ∨ n ∉ ns.dropLast ∧ Waiting n b₀ books₀ b books

/-- All had their turns. -/
structure Arrived (n : Nat) (b₀ : Broker) (books₀ : Books Message) (b : Broker)
    (books : Books Message) : Prop where
  since : ∃ heard, Interlude b₀ heard b
  broker : b.bare = b₀.outcome.1
  heard : books = books₀.handleAll (Client.confirmsOf n b₀.outcome.2)
  idle : b.coming = []

namespace Nearing

theorem start (hlast : n ∉ b.coming.dropLast) : Nearing n b books b.coming b books :=
  ⟨⟨[], .nothing b⟩, rfl, rfl, .inr ⟨hlast, rfl, rfl⟩⟩

theorem clock (h : Nearing n b₀ books₀ ns b books) (now : Nat) (ready : List Nat)
    (due : Dict Nat (List Nat)) : Nearing n b₀ books₀ ns { b with now, ready, due } books := by
  obtain ⟨heard, hidle⟩ := h.since
  refine ⟨⟨_, hidle.trans (.clock b.waits now ready due (.nothing _))⟩, h.broker, h.heard,
    h.waiting.imp_right fun ⟨hlast, hsession, hbooks⟩ => ⟨hlast, ?_, hbooks⟩⟩
  exact (session?_congr rfl n).trans hsession

theorem pass (h : Nearing n b₀ books₀ (m :: ns) b books) :
    Nearing n b₀ books₀ ns (b.pass m).1
      (books.handleAll (Client.confirmsOf n (b.pass m).2)) := by
  obtain ⟨⟨heard, hidle⟩, hbroker, hheard, hwaiting⟩ := h
  rw [passAll_cons, pass_bare] at hbroker hheard
  rw [confirmsOf_append, Books.handleAll_append] at hheard
  refine ⟨⟨_, hidle.trans (interlude_pass b m)⟩, hbroker, hheard, ?_⟩
  by_cases hns : ns = []
  · exact .inl hns
  · obtain ⟨hlast, hsession, hbooks⟩ := hwaiting.resolve_left (List.cons_ne_nil m ns)
    rw [List.dropLast_cons_of_ne_nil hns] at hlast
    have hm : m ≠ n := fun heq => hlast (heq ▸ List.mem_cons_self)
    obtain ⟨hsame, hquiet⟩ := passFirst_other b hm (b.queued m)
    refine .inr ⟨fun hn => hlast (List.mem_cons_of_mem _ hn), hsame.trans hsession, ?_⟩
    unfold Broker.pass
    rwa [hquiet]

theorem passAll : ∀ {ms : List Nat} {b : Broker} {books : Books Message},
    Nearing n b₀ books₀ (ms ++ ns) b books →
    Nearing n b₀ books₀ ns (passAll ms b).1
      (books.handleAll (Client.confirmsOf n (passAll ms b).2))
  | [], _, _, h => h
  | m :: ms, b, books, h => by
    have hrest : Nearing n b₀ books₀ ns (Broker.passAll ms (b.pass m).1).1 _ := Nearing.passAll h.pass
    rwa [← Books.handleAll_append, ← confirmsOf_append] at hrest

/-- A turn of a session with nothing to report makes no difference. -/
theorem passAll_skip : ∀ (ms : List Nat) {b : Broker},
    (∀ s, b.session? m = some s → s.Spent ∧ s.queue = []) →
    Broker.passAll (ms ++ m :: ns) b = Broker.passAll (ms ++ ns) b
  | [], b, hm => by
    have hnothing : b.pass m = (b, []) := by
      rcases hs : b.session? m with _ | s
      · exact passFirst_none hs _
      · exact pass_spent hs (hm s hs).1 (hm s hs).2
    rw [List.nil_append, List.nil_append, passAll_cons, hnothing]
    rfl
  | l :: ms, b, hm => by
    rw [List.cons_append, List.cons_append, passAll_cons, passAll_cons]
    rw [passAll_skip ms fun s hs => ?_]
    by_cases hl : l = m
    · subst hl
      rcases hsome : b.session? l with _ | s'
      · rw [Broker.pass, passFirst_none hsome, hsome] at hs
        cases hs
      · obtain ⟨hspent, hqueue⟩ := hm s' hsome
        rw [Broker.pass, passFirst_exact hsome, session?_change, if_pos rfl, hsome] at hs
        obtain rfl := Option.some.inj hs
        exact ⟨hspent.passed _, (congrArg (List.drop _) hqueue).trans List.drop_nil⟩
    · exact hm s ((passFirst_other b hl _).1.symm.trans hs)

theorem skip (h : Nearing n b₀ books₀ (ms ++ m :: ns) b books)
    (hm : ∀ s, b.session? m = some s → s.Spent ∧ s.queue = []) :
    Nearing n b₀ books₀ (ms ++ ns) b books := by
  have hskip : Broker.passAll (ms ++ m :: ns) b.bare = Broker.passAll (ms ++ ns) b.bare := by
    refine passAll_skip ms fun s hs => ?_
    rw [session?_bare] at hs
    obtain ⟨s', hs', rfl⟩ := Option.map_eq_some_iff.1 hs
    exact hm s' hs'
  refine ⟨h.since, hskip ▸ h.broker, hskip ▸ h.heard, .inr ?_⟩
  obtain ⟨hlast, hwaiting⟩ := h.waiting.resolve_left (List.append_ne_nil_of_right_ne_nil ms
    (List.cons_ne_nil m ns))
  refine ⟨fun hn => hlast ?_, hwaiting⟩
  rw [List.dropLast_append_of_ne_nil (List.cons_ne_nil m ns)]
  cases ns with
  | nil =>
    rw [List.append_nil] at hn
    exact List.mem_append_left _ ((List.dropLast_sublist ms).subset hn)
  | cons l ns =>
    rw [List.dropLast_append_of_ne_nil (List.cons_ne_nil l ns)] at hn
    rw [List.dropLast_cons_of_ne_nil (List.cons_ne_nil l ns)]
    exact (List.mem_append.1 hn).elim (List.mem_append_left _) fun hn =>
      List.mem_append_right _ (List.mem_cons_of_mem _ hn)

theorem arrived (h : Nearing n b₀ books₀ b.coming b books) (hidle : b.coming = []) :
    Arrived n b₀ books₀ b books := by
  obtain ⟨hsince, hbroker, hheard, -⟩ := h
  rw [hidle] at hbroker hheard
  exact ⟨hsince, hbroker, hheard, hidle⟩

end Nearing

/-! ## The first stir -/

section Stir

variable {delay : Span}

theorem tidy_since (htidy : Tidy b₀) (h : Nearing n b₀ books₀ ns b books) : Tidy b :=
  let ⟨_, hidle⟩ := h.since
  htidy.interlude hidle

/-- Who is put off with the same delay as all others is put off to the end. -/
theorem scheduled_later (h : Answerable (· = delay) b) : ({ b with
      due := b.due.insert (b.now + delay.waitMillis)
        ((b.due.get? (b.now + delay.waitMillis)).getD [] ++ [m]) } : Broker).scheduled
    = b.scheduled ++ [m] := by
  refine Dict.flatten_insert_last (fun e he hlater => List.eq_nil_iff_forall_not_mem.2 fun l hl => ?_) m
  obtain ⟨_, rfl, -, -, htime⟩ := h.due (mem_due.2 ⟨e.2, he, hl⟩)
  exact Nat.not_le_of_lt hlater htime

theorem Nearing.beginPass (h : Nearing n b₀ books₀ (b.scheduled ++ m :: ns) b books)
    (htidy : Tidy b₀) (hanswers : Answerable (· = delay) b) (hlive : b.Live m delay) :
    Nearing n b₀ books₀ ((b.beginPass m).1.scheduled ++ ns) (b.beginPass m).1
      (books.handleAll (Client.confirmsOf n (b.beginPass m).2)) := by
  obtain ⟨s, hs, -, -, rfl⟩ := hlive
  by_cases hqueue : s.queue = []
  · rw [beginPass_empty hs hqueue]
    refine h.skip fun s' hs' => ?_
    obtain rfl := Option.some.inj (hs.symm.trans hs')
    refine ⟨fun x hx => (tidy_since htidy h m s hs).withheld x ?_, hqueue⟩
    unfold Session.contents at hx
    rwa [hqueue, List.append_nil] at hx
  · by_cases hprompt : s.delay.nanos = 0
    · have hnone : b.scheduled = [] := List.eq_nil_iff_forall_not_mem.2 fun l hl => by
        obtain ⟨time, hl⟩ := mem_scheduled_iff.1 hl
        obtain ⟨_, rfl, -, hdelay, -⟩ := hanswers.due hl
        exact hdelay hprompt
      have hsame : (b.pass m).1.scheduled = b.scheduled := by
        unfold scheduled Broker.pass
        rw [due_passFirst]
      rw [hnone] at h hsame
      rw [beginPass_prompt hs hqueue hprompt, hsame]
      exact h.pass
    · have hlater := scheduled_later (m := m) hanswers
      rw [beginPass_later hs hqueue hprompt, hlater, List.append_assoc]
      exact h.clock b.now b.ready _

theorem Nearing.beginAll (htidy : Tidy b₀) : ∀ {ms : List Nat} {b : Broker} {books : Books Message},
    Nearing n b₀ books₀ (b.scheduled ++ ms) b books → Answerable (· = delay) b →
    (∀ m ∈ ms, b.Live m delay) →
    Nearing n b₀ books₀ (beginAll ms b).1.scheduled (beginAll ms b).1
      (books.handleAll (Client.confirmsOf n (beginAll ms b).2))
  | [], b, _, h, _, _ => by
    rwa [List.append_nil] at h
  | m :: ms, b, books, h, hanswers, hms => by
    obtain ⟨hm, hms⟩ := List.forall_mem_cons.1 hms
    have hrest := Nearing.beginAll htidy (h.beginPass htidy hanswers hm)
      (hanswers.beginPass rfl hm) fun l hl => (hms l hl).interlude (interlude_beginPass b m)
    rwa [← Books.handleAll_append, ← confirmsOf_append] at hrest

theorem ready_beginPass (b : Broker) (m : Nat) : (b.beginPass m).1.ready = b.ready := by
  unfold Broker.beginPass
  rcases b.session? m with _ | s
  · rfl
  · dsimp only
    split_ifs
    · rfl
    · exact (now_passFirst b _ m).2
    · rfl

theorem ready_beginAll : ∀ (ms : List Nat) (b : Broker), (beginAll ms b).1.ready = b.ready
  | [], _ => rfl
  | m :: ms, b => (ready_beginAll ms (b.beginPass m).1).trans (ready_beginPass b m)

theorem ready_runReady (b : Broker) : b.runReady.1.ready = [] :=
  ready_beginAll _ { (passAll _ _).1 with ready := [] }

/-- After the first stir the others have their turns when they are due. -/
theorem Nearing.runReady (htidy : Tidy b) (hanswers : Answerable (· = delay) b)
    (hlast : n ∉ b.coming.dropLast) :
    Nearing n b books b.runReady.1.coming b.runReady.1
      (books.handleAll (Client.confirmsOf n b.runReady.2)) := by
  let late := (b.due.keep fun time _ => decide (time ≤ b.now)).values.flatten
  let kept : Broker := { b with due := b.due.keep fun time _ => decide (b.now < time) }
  let idle : Broker := { (Broker.passAll late kept).1 with ready := [] }
  have hready : (Broker.passAll late kept).1.ready = b.ready := (now_passAll late kept).2
  have hscheduled : idle.scheduled = kept.scheduled := by
    unfold scheduled
    rw [show idle.due = kept.due from due_passAll late kept]
  have hcoming : b.coming = late ++ (idle.scheduled ++ b.ready) := by
    rw [hscheduled, ← List.append_assoc]
    unfold coming scheduled
    rw [← Dict.values_keep_append b.due b.now, List.flatten_append]
  have hexpects : Answerable (· = delay) idle := by
    refine ((hanswers.keep (fun time => decide (b.now < time)) (Nat.le_refl _)).passAll late).mono
      (List.nil_subset _) id (Nat.le_refl _) fun _ hl => hl.congr rfl
  have hlive : ∀ m ∈ b.ready, idle.Live m delay := fun m hm => by
    obtain ⟨_, rfl, hlive⟩ := hanswers.ready m hm
    exact (Live.interlude (interlude_passAll late kept) (hlive.congr rfl)).congr rfl
  have hstart : Nearing n b books (late ++ (idle.scheduled ++ b.ready)) kept books :=
    hcoming ▸ (Nearing.start hlast).clock b.now b.ready _
  have hbegun := Nearing.beginAll htidy (hstart.passAll.clock _ [] _) hexpects hlive
  rw [← Books.handleAll_append, ← confirmsOf_append] at hbegun
  have heq : b.runReady = ((Broker.beginAll b.ready idle).1,
      (Broker.passAll late kept).2 ++ (Broker.beginAll b.ready idle).2) := by
    change ((Broker.beginAll (Broker.passAll late kept).1.ready idle).1,
      (Broker.passAll late kept).2 ++ (Broker.beginAll (Broker.passAll late kept).1.ready idle).2) = _
    rw [hready]
  have hidle : b.runReady.1.coming = b.runReady.1.scheduled := by
    unfold coming
    rw [ready_runReady, List.append_nil]
  rw [hidle, heq]
  exact hbegun

end Stir

/-! ## The rest of a wait -/

section Rest

theorem Arrived.clock (h : Arrived n b₀ books₀ b books) (now : Nat) {due : Dict Nat (List Nat)}
    (hdue : ∀ e ∈ due.entries, e.2 = []) :
    Arrived n b₀ books₀ { b with now, due } books := by
  obtain ⟨heard, hidle⟩ := h.since
  exact ⟨⟨_, hidle.trans (.clock b.waits now b.ready due (.nothing _))⟩, h.broker, h.heard,
    coming_eq_nil.2 ⟨hdue, (coming_eq_nil.1 h.idle).2⟩⟩

theorem Arrived.entries (h : Arrived n b₀ books₀ b books) : ∀ e ∈ b.due.entries, e.2 = [] :=
  (coming_eq_nil.1 h.idle).1

/-- Once all had their turns nothing happens any more. -/
theorem Arrived.rests (deadline : Nat) : ∀ {times : List (Nat × List Nat)} {b : Broker},
    Arrived n b₀ books₀ b books → (∀ e ∈ times, e.2 = []) →
    Rests n (fun b books' => Arrived n b₀ books₀ b books' ∧ books' = books) books
      (lullUntil deadline times b)
  | [], b, h, _ => ⟨h.clock deadline h.entries, rfl⟩
  | (time, ns) :: times, b, h, htimes => by
    obtain ⟨hns, hrest⟩ := List.forall_mem_cons.1 htimes
    obtain rfl : ns = [] := hns
    unfold lullUntil
    split_ifs
    · exact ⟨h.clock deadline h.entries, rfl⟩
    · have hmoved : Arrived n b₀ books₀ { b with
          now := time, due := b.due.keep fun t _ => decide (time < t) } books :=
        h.clock time fun e he => h.entries e (List.mem_of_mem_filter he)
      exact ⟨⟨hmoved, rfl⟩, hmoved.rests deadline hrest⟩

/-- Whether or not someone still has a turn. -/
theorem Nearing.or_arrived (h : Nearing n b₀ books₀ b.coming b books) :
    b.coming ≠ [] ∧ Waiting n b₀ books₀ b books ∨ Arrived n b₀ books₀ b books := by
  by_cases hidle : b.coming = []
  · exact .inr (h.arrived hidle)
  · exact .inl ⟨hidle, (h.waiting.resolve_left hidle).2⟩

/-- If all turns come before the deadline, all are over before it. -/
theorem Nearing.settles {deadline : Nat} : ∀ {times : List (Nat × List Nat)} {b : Broker}
    {books : Books Message}, b.due.entries = times → b.ready = [] →
    (∀ e ∈ times, e.2 ≠ [] → e.1 < deadline) → b.coming ≠ [] →
    Nearing n b₀ books₀ b.coming b books →
    Settles n (Waiting n b₀ books₀) (Arrived n b₀ books₀) books (lullUntil deadline times b)
  | [], b, _, htimes, hready, _, hsome, _ => by
    unfold coming scheduled Dict.values at hsome
    rw [htimes, hready] at hsome
    exact absurd rfl hsome
  | (time, ns) :: times, b, books, htimes, hready, hbefore, hsome, h => by
    let moved : Broker := { b with now := time, due := b.due.keep fun t _ => decide (time < t) }
    have hmoved : moved.due.entries = times := later_entries htimes
    have hcoming : b.coming = ns ++ moved.scheduled := by
      unfold coming scheduled Dict.values
      rw [hready, List.append_nil, htimes, hmoved]
      rfl
    have hearly : time < deadline := by
      by_contra hlate
      refine hsome (coming_eq_nil.2 ⟨fun e he => ?_, hready⟩)
      rw [htimes] at he
      by_contra hne
      refine hlate (Nat.lt_of_le_of_lt ?_ (hbefore e he hne))
      rcases List.mem_cons.1 he with rfl | he
      · exact Nat.le_refl _
      · exact ((List.pairwise_cons.1 (htimes ▸ b.due.ascending)).1 e he).le
    have hdue : (Broker.passAll ns moved).1.due = moved.due := due_passAll ns moved
    have hready' : (Broker.passAll ns moved).1.ready = [] := (now_passAll ns moved).2.trans hready
    have hleft : (Broker.passAll ns moved).1.coming = moved.scheduled := by
      unfold coming scheduled
      rw [hready', hdue, List.append_nil]
    have hpassed : Nearing n b₀ books₀ (Broker.passAll ns moved).1.coming (Broker.passAll ns moved).1
        (books.handleAll (Client.confirmsOf n (Broker.passAll ns moved).2)) := by
      rw [hleft]
      exact Nearing.passAll (hcoming ▸ h.clock time b.ready _)
    unfold lullUntil
    rw [if_neg (Nat.not_le_of_lt hearly)]
    rcases hpassed.or_arrived with ⟨hmore, hwaiting⟩ | harrived
    · refine .inl ⟨hwaiting, Nearing.settles ?_ hready' (fun e he => ?_) hmore hpassed⟩
      · rw [hdue, hmoved]
      · exact hbefore e (List.mem_cons_of_mem _ he)
    · refine .inr ⟨harrived, harrived.rests deadline ?_⟩
      have hnone := harrived.entries
      rwa [hdue, hmoved] at hnone

variable {delay timeout : Span}

theorem now_runReady (b : Broker) : b.runReady.1.now = b.now :=
  (now_beginAll _ { (passAll _ _).1 with ready := [] }).trans (now_passAll _ { b with due := _ }).1

/-- A wait that outlasts the delay lets all have their turns. -/
theorem settles_lull (htidy : Tidy b) (hanswers : Answerable (· = delay) b)
    (hlast : n ∉ b.coming.dropLast) (hlong : delay.waitMillis < timeout.waitMillis) :
    Settles n (Waiting n b books) (Arrived n b books) books (b.lull timeout) := by
  have hstirred : Nearing n b books b.runReady.1.coming b.runReady.1 _ :=
    Nearing.runReady htidy hanswers hlast
  rw [lull_eq b (nanos_ne_zero (Nat.zero_lt_of_lt hlong))]
  rcases hstirred.or_arrived with ⟨hmore, hwaiting⟩ | harrived
  · refine .inl ⟨hwaiting, hstirred.settles rfl (ready_runReady b) (fun e he hsome => ?_) hmore⟩
    obtain ⟨l, hl⟩ := List.exists_mem_of_ne_nil _ hsome
    obtain ⟨_, rfl, -, -, htime⟩ := hanswers.runReady.due (mem_due.2 ⟨e.2, he, hl⟩)
    rw [now_runReady] at htime
    exact htime.trans_lt (Nat.add_lt_add_left hlong b.now)
  · exact .inr ⟨harrived, harrived.rests _ harrived.entries⟩

/-- Where nobody is to pass a wait is of no use, however long it is. -/
theorem rests_lull (hidle : b.coming = []) (timeout : Span) :
    Rests n (fun b' books' => Arrived n b books b' books' ∧ books' = books) books
      (b.lull timeout) := by
  have hlast : n ∉ b.coming.dropLast := by
    rw [hidle]
    exact List.not_mem_nil
  have hstart : Arrived n b books b books := (Nearing.start hlast).arrived hidle
  by_cases htimeout : timeout.nanos = 0
  · obtain rfl : timeout = .zero := congrArg Span.mk htimeout
    rw [lull_zero]
    exact ⟨hstart, rfl⟩
  · have hlate : (b.due.keep fun time _ => decide (time ≤ b.now)).values.flatten = [] :=
      flatten_values_eq_nil.2 fun e he => hstart.entries e (List.mem_of_mem_filter he)
    have hstirred : b.runReady
        = ({ b with due := b.due.keep fun time _ => decide (b.now < time) }, []) := by
      have hready : b.ready = [] := (coming_eq_nil.1 hidle).2
      unfold runReady
      rw [hlate]
      dsimp only [passAll]
      rw [hready]
      rfl
    have hkept : Arrived n b books
        { b with due := b.due.keep fun time _ => decide (b.now < time) } books :=
      hstart.clock b.now fun e he => hstart.entries e (List.mem_of_mem_filter he)
    rw [lull_eq b htimeout, hstirred]
    exact ⟨⟨hkept, rfl⟩, hkept.rests _ hkept.entries⟩

end Rest

end ConfirmedDelivery.Broker
