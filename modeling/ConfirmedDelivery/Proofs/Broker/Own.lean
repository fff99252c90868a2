import ConfirmedDelivery.Proofs.Broker.Chronicle

/-!
# What belongs to one session

Of a broker, a session has to do with what was sent on it, what was answered and kept of that and what
it still holds (`own`); and with all of it only up to its own number and to how often each message was
sent before, which other sessions have a part in (`plain`). No other session takes anything from it by
passing (`own_passFirst_other`), and a pass does the same to the plain session as to the session itself
(`plain_passed`, `told_plain`).
-/

namespace ConfirmedDelivery.Broker

/-- A delivery but for the number of its session and the number of times its message was sent. -/
def Delivery.plain (d : Delivery) : Delivery := { d with session := 0, attempt := 0 }

def Settlement.plain (x : Settlement) : Settlement := ⟨x.ruling, x.delivery.plain⟩

/-- A session with plain deliveries, whenever its passes are to report. -/
def Session.plain (s : Session) : Session :=
  { s with
    delay := .zero
    queue := s.queue.map Settlement.plain
    pending := s.pending.mapValues fun _ => Settlement.plain }

/-- The script reads neither the number of the session nor how often a message was sent. -/
def Blind (rules : Script) : Prop := ∀ d, rules d.plain = rules d

section Reports

/-- What is reported depends on the tags and the rulings only. -/
theorem splitBy_map {α : Type} {R : α → α → Bool} {f : α → α} (hf : ∀ a b, R (f a) (f b) = R a b) :
    ∀ l : List α, (l.map f).splitBy R = (l.splitBy R).map (List.map f)
  | [] => rfl
  | a :: l => loop l a [] []
where
  loop : ∀ (l : List α) (a : α) (g : List α) (gs : List (List α)),
      List.splitBy.loop R (l.map f) (f a) (g.map f) (gs.map (List.map f))
        = (List.splitBy.loop R l a g gs).map (List.map f)
    | [], a, g, gs => by simp [List.splitBy.loop]
    | b :: l, a, g, gs => by
      rw [List.map_cons, List.splitBy.loop, List.splitBy.loop, hf]
      cases R a b with
      | true => exact loop l b (a :: g) gs
      | false => simpa using loop l b [] ((a :: g).reverse :: gs)

theorem continues_plain (x y : Settlement) : x.plain.continues y.plain = x.continues y := rfl

theorem reports_plain (mode : Reporting) (pending : List Settlement) :
    reports mode (pending.map Settlement.plain)
      = (reports mode pending).map (List.map Settlement.plain) := by
  have hsettles : Settlement.settles ∘ Settlement.plain = Settlement.settles := rfl
  cases mode with
  | individual =>
    unfold reports
    dsimp only
    rw [List.filter_map, hsettles, List.map_map, List.map_map]
    rfl
  | cumulative =>
    unfold reports
    dsimp only
    rw [List.takeWhile_map, List.dropWhile_map, List.filter_map, hsettles,
      splitBy_map continues_plain, List.map_append, List.map_map, List.map_map]
    rfl

theorem confirmOf_plain (run : List Settlement) :
    confirmOf (run.map Settlement.plain) = confirmOf run := by
  unfold confirmOf
  rw [List.getLast?_map, Option.map_map, List.length_map]
  rfl

end Reports

section Plain

variable (s : Session) (k : Nat)

theorem plain_accept : (s.accept k).plain = s.plain.accept k := by
  have hpending : ∀ (xs : List Settlement) (p : Dict Tag Settlement),
      (xs.foldl (fun p x => p.insert x.tag x) p).mapValues (fun _ => Settlement.plain)
        = (xs.map Settlement.plain).foldl (fun p x => p.insert x.tag x)
          (p.mapValues fun _ => Settlement.plain) := by
    intro xs
    induction xs with
    | nil => exact fun _ => rfl
    | cons x xs ih =>
      intro p
      rw [List.foldl_cons, ih, Dict.mapValues_insert]
      rfl
  unfold Session.accept Session.plain
  dsimp only
  rw [hpending, List.map_take, List.map_drop]

theorem values_plain : s.plain.pending.values = s.pending.values.map Settlement.plain := by
  unfold Session.plain Dict.mapValues Dict.values
  dsimp only
  rw [List.map_map, List.map_map]
  rfl

theorem plain_settle : s.settle.plain = s.plain.settle := by
  have hpending : (s.pending.keep fun _ x => !x.settles).mapValues (fun _ => Settlement.plain)
      = (s.pending.mapValues fun _ => Settlement.plain).keep fun _ x => !x.settles := by
    refine Dict.ext ?_
    unfold Dict.mapValues Dict.keep
    dsimp only
    rw [List.filter_map]
    rfl
  unfold Session.settle Session.plain
  dsimp only
  rw [hpending]

/-- A pass leaves of the plain session what it leaves of the session. -/
theorem plain_passed : (s.passed k).plain = s.plain.passed k := by
  have hcount : ((s.plain.accept k).pending.values.filter Settlement.settles).length
      = ((s.accept k).pending.values.filter Settlement.settles).length := by
    rw [← plain_accept, values_plain, List.filter_map, List.length_map]
    rfl
  unfold Session.passed
  rw [hcount, ← plain_accept, ← plain_settle]
  rfl

theorem told_plain : s.plain.told k = s.told k := by
  unfold Session.told
  rw [← plain_accept, values_plain, reports_plain, List.filterMap_map]
  exact congrArg (fun f => List.filterMap f _) (funext confirmOf_plain)

theorem accepted_plain : accepted (s.plain.accept k).pending.values
    = (accepted (s.accept k).pending.values).map Delivery.plain := by
  rw [← plain_accept, values_plain]
  unfold accepted
  rw [List.filter_map, List.map_map, List.map_map]
  rfl

end Plain

/-! ## What is seen from one session -/

/-- The deliveries of session `n` among these, plain. -/
def plainOf (n : Nat) (ds : List Delivery) : List Delivery :=
  (ds.filter fun d => d.session = n).map Delivery.plain

/-- What listeners to session `n` hear, and who does. -/
def heardOn (n : Nat) (heard : List Heard) : List (Nat × Confirm) :=
  (heard.filter fun h => h.session = n).map fun h => (h.listener, h.confirm)

/-- What belongs to a session: what it holds, what was sent on it, what was answered, and what is kept
of it at each destination. -/
@[ext] structure Own where
  session : Option Session
  sent : List Delivery
  answers : List Confirm
  kept : String → List Delivery

def own (b : Broker) (n : Nat) : Own :=
  ⟨(b.session? n).map Session.plain, plainOf n b.deliveries, b.answers n,
    fun q => plainOf n (b.stored q)⟩

section Seen

variable {n m : Nat}

theorem plainOf_append (ds es : List Delivery) :
    plainOf n (ds ++ es) = plainOf n ds ++ plainOf n es := by
  simp only [plainOf, List.filter_append, List.map_append]

theorem plainOf_own {ds : List Delivery} (h : ∀ d ∈ ds, d.session = n) :
    plainOf n ds = ds.map Delivery.plain := by
  unfold plainOf
  rw [List.filter_eq_self.2 fun d hd => decide_eq_true (h d hd)]

theorem plainOf_other {ds : List Delivery} (h : ∀ d ∈ ds, d.session ≠ n) : plainOf n ds = [] := by
  unfold plainOf
  rw [List.filter_eq_nil_iff.2 fun d hd heq => h d hd (of_decide_eq_true heq), List.map_nil]

theorem heardOn_append (heard more : List Heard) :
    heardOn n (heard ++ more) = heardOn n heard ++ heardOn n more := by
  simp only [heardOn, List.filter_append, List.map_append]

/-- Whoever listens hears the same, whatever the number of the session. -/
theorem heardOn_heardBy (n m : Nat) (listener : Option Nat) : ∀ cs : List Confirm,
    heardOn n (heardBy n listener cs) = heardOn m (heardBy m listener cs)
  | [] => rfl
  | c :: cs => by
    rw [heardBy_cons, heardBy_cons m, heardOn_append, heardOn_append, heardOn_heardBy n m listener cs]
    cases listener <;> simp [heardBy, heardOn]

theorem heardOn_other (h : m ≠ n) (listener : Option Nat) (cs : List Confirm) :
    heardOn n (heardBy m listener cs) = [] := by
  unfold heardOn
  rw [List.map_eq_nil_iff, List.filter_eq_nil_iff]
  intro x hx
  obtain ⟨c, -, hx⟩ := List.mem_flatMap.1 hx
  obtain ⟨l, -, rfl⟩ := Option.map_eq_some_iff.1 (Option.mem_toList.1 hx)
  simpa using h

end Seen

section Own

variable {b b' : Broker} {n m : Nat} {s : Session}

/-- What a pass accepts is of the session that passes. -/
theorem OfItself.accepted (h : OfItself b) (hs : b.session? n = some s) (k : Nat) :
    ∀ d ∈ accepted (s.accept k).pending.values, d.session = n := by
  intro d hd
  obtain ⟨x, hx, rfl⟩ := List.mem_map.1 hd
  exact (h n s hs x (contents_accept (List.mem_of_mem_filter hx))).1

theorem own_passFirst_self (hself : OfItself b) (hs : b.session? n = some s) (k : Nat) :
    (b.passFirst k n).1.own n = ⟨some (s.plain.passed k), (b.own n).sent,
      (b.own n).answers ++ s.plain.told k, fun q => (b.own n).kept q
        ++ (accepted (s.plain.accept k).pending.values).filter fun d => d.destination = q⟩ := by
  have hkept := (keeps_kept (accepted (s.accept k).pending.values) b).stored
  have hpart (q : String) : plainOf n
      ((accepted (s.accept k).pending.values).filter fun d => d.destination = q)
        = (accepted (s.plain.accept k).pending.values).filter fun d => d.destination = q := by
    rw [plainOf_own fun d hd => hself.accepted hs k d (List.mem_of_mem_filter hd), accepted_plain,
      List.filter_map]
    rfl
  rw [passFirst_exact hs]
  unfold own
  rw [session?_change, if_pos rfl, hs, answers_change, if_pos rfl, told_plain, ← plain_passed]
  congr 1
  funext q
  rw [← hpart, ← plainOf_append, ← hkept q]
  rfl

theorem own_passFirst_other (hself : OfItself b) (hm : m ≠ n) (k : Nat) :
    (b.passFirst k m).1.own n = b.own n := by
  rcases hs : b.session? m with _ | s
  · rw [passFirst_none hs]
  have hkept := (keeps_kept (accepted (s.accept k).pending.values) b).stored
  rw [passFirst_exact hs]
  unfold own
  rw [session?_change, if_neg hm, answers_change, if_neg hm, List.append_nil]
  congr 1
  funext q
  have hnone : plainOf n
      ((accepted (s.accept k).pending.values).filter fun d => d.destination = q) = [] :=
    plainOf_other fun d hd heq =>
      hm ((hself.accepted hs k d (List.mem_of_mem_filter hd)).symm.trans heq)
  change plainOf n (((kept b.queues _).get? q).getD []) = _
  rw [hkept q, plainOf_append, hnone, List.append_nil]

end Own

end ConfirmedDelivery.Broker
