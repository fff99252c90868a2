import ConfirmedDelivery.Broker.Client
import ConfirmedDelivery.Proofs.Broker.Reports

/-!
# What a pass does

A pass of a session changes that session, the queues and the log of confirms, and nothing else
(`passFirst_eq`): what was taken in and is settled is no longer pending, what was accepted of it is
kept at the end of its queue, and the confirms that report it are handed to whoever listens.
-/

namespace ConfirmedDelivery.Broker

theorem session?_update (b : Broker) (n m : Nat) (f : Session → Session) :
    (b.update n f).session? m = if n = m then (b.session? m).map f else b.session? m := by
  rcases n with _ | n <;> rcases m with _ | m
  · rfl
  · rfl
  · rfl
  · change (b.sessions.modify n f)[m]? = if n + 1 = m + 1 then b.sessions[m]?.map f else b.sessions[m]?
    rw [List.getElem?_modify]
    by_cases h : n = m
    · subst h
      simp
    · rw [if_neg (by omega)]
      simp [h]

theorem session?_congr {b b' : Broker} (h : b'.sessions = b.sessions) (n : Nat) :
    b'.session? n = b.session? n := by
  cases n with
  | zero => rfl
  | succ n => exact congrArg (fun l : List Session => l[n]?) h

theorem session?_updated {b b' : Broker} {n : Nat} {f : Session → Session}
    (h : b'.sessions = (b.update n f).sessions) (m : Nat) :
    b'.session? m = if n = m then (b.session? m).map f else b.session? m :=
  (session?_congr h m).trans (session?_update b n m f)

theorem update_update (b : Broker) (n : Nat) (f g : Session → Session) :
    (b.update n f).update n g = b.update n (g ∘ f) := by
  cases n with
  | zero => rfl
  | succ n => simp only [update, List.modify_modify_eq]

theorem lt_of_session? {b : Broker} {n : Nat} {s : Session} (h : b.session? n = some s) :
    0 < n ∧ n ≤ b.opened := by
  cases n with
  | zero => simp [session?] at h
  | succ n =>
    have := (List.getElem?_eq_some_iff.1 h).1
    exact ⟨Nat.succ_pos n, this⟩

theorem mem_sessions {b : Broker} {n : Nat} {s : Session} (h : b.session? n = some s) :
    s ∈ b.sessions := by
  cases n with
  | zero => exact absurd (lt_of_session? h).1 (Nat.lt_irrefl 0)
  | succ n => exact List.mem_of_getElem? h

/-! ## Storing -/

theorem stored_store (b : Broker) (d : Delivery) (q : String) :
    (b.store d).stored q = b.stored q ++ [d].filter fun d => d.destination = q := by
  unfold stored store
  dsimp only
  rw [Dict.get?_insert]
  by_cases h : q = d.destination
  · subst h
    simp [stored]
  · have hne : ¬ d.destination = q := fun heq => h heq.symm
    simp [h, hne]

/-- A destination that exists keeps what it has, and a new one has nothing. -/
theorem stored_declare (b : Broker) (destination q : String) :
    ({ b with queues := b.queues.insert destination (b.stored destination) } : Broker).stored q
      = b.stored q := by
  change ((b.queues.insert destination (b.stored destination)).get? q).getD [] = b.stored q
  rw [Dict.get?_insert]
  split_ifs with hq
  · rw [hq]
    rfl
  · rfl

theorem contains_store {b : Broker} {q : String} (h : b.queues.contains q = true) (d : Delivery) :
    (b.store d).queues.contains q = true := by
  unfold store
  rw [Dict.contains_insert, h, Bool.or_true]

/-- What is kept of these deliveries: each is put last in its queue, and no queue is lost. -/
structure Keeps (ds : List Delivery) (b : Broker) (queues : Dict String (List Delivery)) : Prop where
  stored : ∀ q, (queues.get? q).getD [] = b.stored q ++ ds.filter fun d => d.destination = q
  contains : ∀ q, b.queues.contains q = true → queues.contains q = true

theorem keeps_nil (b : Broker) : Keeps [] b b.queues where
  stored _ := (List.append_nil _).symm
  contains _ h := h

theorem Keeps.append {ds es : List Delivery} {b b' : Broker}
    {queues queues' : Dict String (List Delivery)} (h : Keeps ds b queues)
    (h' : Keeps es b' queues') (heq : b'.queues = queues) : Keeps (ds ++ es) b queues' where
  stored q := by
    rw [h'.stored, List.filter_append, ← List.append_assoc, ← h.stored q, Broker.stored, heq]
  contains q hq := h'.contains q (heq ▸ h.contains q hq)

/-- The queues with these deliveries put last in theirs, one after another. -/
def kept (queues : Dict String (List Delivery)) (ds : List Delivery) :
    Dict String (List Delivery) :=
  ds.foldl (fun qs d => qs.insert d.destination ((qs.get? d.destination).getD [] ++ [d])) queues

theorem kept_append (queues : Dict String (List Delivery)) (ds es : List Delivery) :
    kept queues (ds ++ es) = kept (kept queues ds) es := List.foldl_append

theorem foldl_store : ∀ (ds : List Delivery) (b : Broker),
    ds.foldl store b = { b with queues := kept b.queues ds }
  | [], _ => rfl
  | d :: ds, b => foldl_store ds (b.store d)

theorem keeps_kept : ∀ (ds : List Delivery) (b : Broker), Keeps ds b (kept b.queues ds)
  | [], b => keeps_nil b
  | d :: ds, b => by
    have hd : Keeps [d] b (b.store d).queues :=
      ⟨stored_store b d, fun _ hq => contains_store hq d⟩
    exact hd.append (keeps_kept ds (b.store d)) rfl

/-! ## Reporting -/

/-- A session that has reported `k` messages more. -/
def Session.answered (k : Nat) (s : Session) : Session := { s with unconfirmed := s.unconfirmed - k }

/-- What a listener to session `n` hears of these confirms. -/
def heardBy (n : Nat) (listener : Option Nat) (cs : List Confirm) : List Heard :=
  cs.flatMap fun c => (listener.map fun l => (⟨n, l, c⟩ : Heard)).toList

theorem heardBy_cons (n : Nat) (listener : Option Nat) (c : Confirm) (cs : List Confirm) :
    heardBy n listener (c :: cs) = heardBy n listener [c] ++ heardBy n listener cs := by
  simp [heardBy]

theorem confirmsOf_append (n : Nat) (heard more : List Heard) :
    Client.confirmsOf n (heard ++ more) = Client.confirmsOf n heard ++ Client.confirmsOf n more := by
  simp only [Client.confirmsOf, List.filter_append, List.map_append]

/-- Who listens to a session hears its confirms. -/
theorem confirmsOf_heardBy (n l : Nat) : ∀ cs : List Confirm,
    Client.confirmsOf n (heardBy n (some l) cs) = cs
  | [] => rfl
  | c :: cs => by
    rw [heardBy_cons, confirmsOf_append, confirmsOf_heardBy n l cs]
    simp [heardBy, Client.confirmsOf]

theorem confirmsOf_heardBy_other {n m : Nat} (h : m ≠ n) (listener : Option Nat)
    (cs : List Confirm) : Client.confirmsOf n (heardBy m listener cs) = [] := by
  unfold Client.confirmsOf
  rw [List.map_eq_nil_iff, List.filter_eq_nil_iff]
  intro x hx
  obtain ⟨c, -, hx⟩ := List.mem_flatMap.1 hx
  obtain ⟨l, -, rfl⟩ := Option.map_eq_some_iff.1 (Option.mem_toList.1 hx)
  simpa using h

/-- What is accepted of these settlements. -/
def accepted (xs : List Settlement) : List Delivery :=
  (xs.filter fun x => x.ruling = .ack).map Settlement.delivery

theorem accepted_append (xs ys : List Settlement) :
    accepted (xs ++ ys) = accepted xs ++ accepted ys := by
  simp only [accepted, List.filter_append, List.map_append]

theorem accepted_settled (xs : List Settlement) :
    accepted (xs.filter Settlement.settles) = accepted xs := by
  unfold accepted
  rw [List.filter_filter]
  congr 2
  funext x
  cases hx : x.ruling <;> simp [Settlement.settles, Ruling.settles, hx]

theorem Uniform.accepted {run : List Settlement} {x : Settlement} (h : Uniform run) (hx : x ∈ run) :
    accepted run = if x.ruling.verdict = .acked then run.map Settlement.delivery else [] := by
  unfold Broker.accepted
  simp only [verdict_acked (h.settles x hx)]
  split_ifs with hack
  · rw [List.filter_eq_self.2 fun y hy => decide_eq_true ((h.ruling y hy x hx).trans hack)]
  · rw [List.filter_eq_nil_iff.2, List.map_nil]
    exact fun y hy hyack => hack ((h.ruling x hx y hy).trans (of_decide_eq_true hyack))

/-- The broker with one session changed, other queues and another log of confirms. -/
def change (b : Broker) (n : Nat) (f : Session → Session)
    (queues : Dict String (List Delivery)) (confirms : List ConfirmRecord) : Broker :=
  { b with sessions := (b.update n f).sessions, queues, confirms }

theorem update_eq (b : Broker) (n : Nat) (f : Session → Session) :
    b.update n f = b.change n f b.queues b.confirms := by
  cases n <;> rfl

section Change

variable (b : Broker) (n : Nat) (f g : Session → Session)
  (queues queues' : Dict String (List Delivery)) (confirms confirms' : List ConfirmRecord)

theorem session?_change (m : Nat) : (b.change n f queues confirms).session? m
    = if n = m then (b.session? m).map f else b.session? m := session?_updated rfl m

theorem change_change : (b.change n f queues confirms).change n g queues' confirms'
    = b.change n (g ∘ f) queues' confirms' := by
  have hsessions : ((b.change n f queues confirms).update n g).sessions
      = (b.update n (g ∘ f)).sessions := by
    rw [← update_update]
    cases n <;> rfl
  unfold change at hsessions ⊢
  rw [hsessions]

end Change

theorem report_eq {b : Broker} {n : Nat} {s : Session} {run : List Settlement} {c : Confirm}
    (hs : b.session? n = some s) (hrun : Uniform run) (hc : confirmOf run = some c) :
    b.report n run = (b.change n (Session.answered run.length) (kept b.queues (accepted run))
        (b.confirms ++ [⟨n, c⟩]), heardBy n s.listener [c]) := by
  obtain ⟨x, hx, hcx⟩ := Option.map_eq_some_iff.1 hc
  have hverdict : x.ruling.verdict = c.verdict := by rw [← hcx]
  unfold report
  rw [hc, hs, hrun.accepted (List.mem_of_getLast? hx), hverdict, heardBy, List.flatMap_singleton]
  dsimp only
  cases c.verdict with
  | acked =>
    dsimp only
    rw [foldl_store]
    cases n <;> rfl
  | nacked => cases n <;> rfl

theorem reportAll_eq {n : Nat} : ∀ {runs : List (List Settlement)} {b : Broker} {s : Session},
    b.session? n = some s → (∀ run ∈ runs, Uniform run) →
    reportAll n runs b
      = (b.change n (Session.answered runs.flatten.length) (kept b.queues (accepted runs.flatten))
          (b.confirms ++ (runs.filterMap confirmOf).map (ConfirmRecord.mk n)),
        heardBy n s.listener (runs.filterMap confirmOf))
  | [], b, s, _, _ => by
    have hid : Session.answered 0 = id := rfl
    rw [List.filterMap_nil, List.map_nil, List.append_nil, List.flatten_nil, List.length_nil, hid]
    change _ = (b.change n id b.queues b.confirms, _)
    rw [← update_eq]
    cases n with
    | zero => rfl
    | succ n =>
      simp only [update, List.modify_id]
      rfl
  | run :: runs, b, s, hs, hruns => by
    have hrun := hruns run List.mem_cons_self
    obtain ⟨c, hc⟩ := hrun.confirmOf
    have hs' : (b.change n (Session.answered run.length) (kept b.queues (accepted run))
        (b.confirms ++ [⟨n, c⟩])).session? n = some (s.answered run.length) := by
      rw [session?_change, if_pos rfl, hs]
      rfl
    have ih := reportAll_eq hs' fun r hr => hruns r (List.mem_cons_of_mem _ hr)
    have hanswered : Session.answered runs.flatten.length ∘ Session.answered run.length
        = Session.answered (run :: runs).flatten.length := by
      funext s
      simp only [Function.comp, Session.answered, List.flatten_cons, List.length_append,
        Nat.sub_sub]
    have hlog : b.confirms ++ (c :: runs.filterMap confirmOf).map (ConfirmRecord.mk n)
        = b.confirms ++ [⟨n, c⟩] ++ (runs.filterMap confirmOf).map (ConfirmRecord.mk n) := by
      rw [List.map_cons, List.append_assoc, List.singleton_append]
    have hkept : kept b.queues (accepted (run :: runs).flatten)
        = kept (kept b.queues (accepted run)) (accepted runs.flatten) := by
      rw [List.flatten_cons, accepted_append, kept_append]
    unfold reportAll
    rw [report_eq hs hrun hc]
    dsimp only
    rw [ih, change_change, hanswered, List.filterMap_cons_some hc, hlog, hkept,
      heardBy_cons n s.listener c (runs.filterMap confirmOf)]
    rfl

/-! ## Passes -/

/-- A session after a pass that took in the first `k` messages of those that were sent. -/
def Session.passed (k : Nat) (s : Session) : Session :=
  ((s.accept k).settle).answered ((s.accept k).pending.values.filter Settlement.settles).length

/-- A session whose pending settlements stand under their tags, all of them before those that are
to be taken in. -/
structure Session.InOrder (s : Session) : Prop where
  keyed : ∀ e ∈ s.pending.entries, e.1 = e.2.tag
  ascending : (s.pending.values ++ s.queue).Pairwise fun x y => x.tag < y.tag

theorem foldl_insert_last : ∀ (xs : List Settlement) {p : Dict Tag Settlement},
    (∀ e ∈ p.entries, e.1 = e.2.tag) → (p.values ++ xs).Pairwise (fun x y => x.tag < y.tag) →
    (xs.foldl (fun p x => p.insert x.tag x) p).entries = p.entries ++ xs.map fun x => (x.tag, x)
  | [], p, _, _ => (List.append_nil _).symm
  | x :: xs, p, hkeyed, hasc => by
    have hlt : ∀ e ∈ p.entries, e.1 < x.tag := by
      intro e he
      rw [hkeyed e he]
      exact (List.pairwise_append.1 hasc).2.2 e.2 (List.mem_map_of_mem he) x List.mem_cons_self
    have hlast := Dict.entries_insert_last hlt x
    have hvalues : (p.insert x.tag x).values ++ xs = p.values ++ x :: xs := by
      unfold Dict.values
      rw [hlast, List.map_append, List.append_assoc]
      rfl
    have ih := foldl_insert_last xs (p := p.insert x.tag x) (fun e he => by
        rw [hlast] at he
        rcases List.mem_append.1 he with he | he
        · exact hkeyed e he
        · rw [List.mem_singleton.1 he]) (by rwa [hvalues])
    rw [List.foldl_cons, ih, hlast, List.append_assoc]
    rfl

namespace Session.InOrder

variable {s : Session} (h : s.InOrder) (k : Nat)

include h

theorem entries_accept : (s.accept k).pending.entries
    = s.pending.entries ++ (s.queue.take k).map fun x => (x.tag, x) := by
  refine foldl_insert_last (s.queue.take k) h.keyed (h.ascending.sublist ?_)
  exact (List.take_sublist k s.queue).append_left _

theorem values_accept : (s.accept k).pending.values = s.pending.values ++ s.queue.take k := by
  unfold Dict.values
  rw [h.entries_accept, List.map_append, List.map_map]
  congr 1
  exact List.map_id _

theorem values_passed : (s.passed k).pending.values
    = (s.pending.values ++ s.queue.take k).filter fun x => !x.settles := by
  rw [← h.values_accept]
  unfold Dict.values
  rw [List.filter_map]
  rfl

theorem passed : (s.passed k).InOrder where
  keyed e he := by
    have he := List.mem_of_mem_filter he
    rw [h.entries_accept] at he
    rcases List.mem_append.1 he with he | he
    · exact h.keyed e he
    · obtain ⟨x, -, rfl⟩ := List.mem_map.1 he
      rfl
  ascending := by
    refine h.ascending.sublist ?_
    rw [h.values_passed]
    conv_rhs => rw [← List.take_append_drop k s.queue, ← List.append_assoc]
    exact List.filter_sublist.append (List.Sublist.refl _)

end Session.InOrder

/-- What a pass that takes in the first `k` messages answers. -/
def Session.told (k : Nat) (s : Session) : List Confirm :=
  (reports s.reporting (s.accept k).pending.values).filterMap confirmOf

theorem passFirst_exact {b : Broker} {n : Nat} {s : Session} (hs : b.session? n = some s)
    (k : Nat) :
    b.passFirst k n = (b.change n (fun _ => s.passed k)
        (kept b.queues (accepted (s.accept k).pending.values))
        (b.confirms ++ (s.told k).map (ConfirmRecord.mk n)), heardBy n s.listener (s.told k)) := by
  have hs' : (b.update n fun _ => (s.accept k).settle).session? n = some (s.accept k).settle := by
    rw [session?_update, if_pos rfl, hs]
    rfl
  unfold passFirst
  rw [hs]
  change reportAll n (reports s.reporting (s.accept k).pending.values)
    (b.update n fun _ => (s.accept k).settle) = _
  rw [reportAll_eq hs' (uniform_reports _ _), flatten_reports, accepted_settled, update_eq,
    change_change]
  rfl

/-- What a pass of a session does. -/
theorem passFirst_eq {b : Broker} {n : Nat} {s : Session} (hs : b.session? n = some s) (k : Nat) :
    ∃ queues confirms,
      b.passFirst k n = (b.change n (fun _ => s.passed k) queues confirms,
          heardBy n s.listener
            ((reports s.reporting (s.accept k).pending.values).filterMap confirmOf))
        ∧ Keeps (accepted (s.accept k).pending.values) b queues :=
  ⟨_, _, passFirst_exact hs k, keeps_kept _ b⟩

theorem passFirst_none {b : Broker} {n : Nat} (hs : b.session? n = none) (k : Nat) :
    b.passFirst k n = (b, []) := by
  unfold passFirst
  rw [hs]
  rfl

/-- A pass of another session leaves this one alone, and nothing is heard of it here. -/
theorem passFirst_other (b : Broker) {m n : Nat} (hm : m ≠ n) (k : Nat) :
    (b.passFirst k m).1.session? n = b.session? n
      ∧ Client.confirmsOf n (b.passFirst k m).2 = [] := by
  rcases hs : b.session? m with _ | s
  · rw [passFirst_none hs]
    exact ⟨rfl, rfl⟩
  · obtain ⟨queues, confirms, heq, -⟩ := passFirst_eq hs k
    rw [heq, session?_change, if_neg hm]
    exact ⟨rfl, confirmsOf_heardBy_other hm _ _⟩

end ConfirmedDelivery.Broker
