import ConfirmedDelivery.Proofs.Broker.Reachable
import ConfirmedDelivery.Proofs.Round.Steps
import Mathlib.Algebra.Order.Group.Multiset
import Mathlib.Tactic.Abel

/-!
# What a call adds to the queues

Between two calls on a broker its sessions may pass at any time. What they add to the queues is told
apart by the numbers of the sessions: what was opened before a point in time and what after it
(`Gained`). While a session is in use, the books of its round have in flight what the session holds,
and together with what is kept, what is refused and what is still to be sent that is all there is to
send (`Holding`). No pass changes that (`Holding.interlude`).
-/

namespace ConfirmedDelivery.Broker

/-- What is delivered of a message. -/
def Delivery.parcel (d : Delivery) : Parcel := ⟨d.destination, d.properties, d.body⟩

/-- What was added to the queues since the broker was `before`: on sessions opened since then
exactly `added`, all of which the script accepts, and otherwise only what had been sent before. -/
structure Gained (before : Broker) (added : List Delivery) (b : Broker) : Prop where
  kept : ∀ q, ∃ rest, b.stored q = before.stored q ++ rest
    ∧ rest.filter (fun d => before.opened < d.session) = added.filter (fun d => d.destination = q)
    ∧ ∀ d ∈ rest, d.session ≤ before.opened → d ∈ before.deliveries
  accepted : ∀ d ∈ added, before.opened < d.session ∧ before.script d = .ack

section Gained

variable {before b b' : Broker} {added ds : List Delivery}

theorem gained_start (b : Broker) : Gained b [] b where
  kept _ := ⟨[], (List.append_nil _).symm, rfl, fun _ hd => absurd hd List.not_mem_nil⟩
  accepted _ hd := absurd hd List.not_mem_nil

theorem Gained.congr (h : Gained before added b) (heq : ∀ q, b'.stored q = b.stored q) :
    Gained before added b' where
  kept q := by
    rw [heq q]
    exact h.kept q
  accepted := h.accepted

theorem Gained.own {queues : Dict String (List Delivery)} (h : Gained before added b)
    (hkeeps : Keeps ds b queues) (heq : b'.queues = queues)
    (hown : ∀ d ∈ ds, before.opened < d.session ∧ before.script d = .ack) :
    Gained before (added ++ ds) b' where
  kept q := by
    obtain ⟨rest, hrest, hnew, hold⟩ := h.kept q
    refine ⟨rest ++ ds.filter fun d => d.destination = q, ?_, ?_, fun d hd hle => ?_⟩
    · rw [stored, heq, hkeeps.stored, hrest, List.append_assoc]
    · have hself : (ds.filter fun d => d.destination = q).filter
          (fun d => before.opened < d.session) = ds.filter fun d => d.destination = q :=
        List.filter_eq_self.2 fun d hd => decide_eq_true (hown d (List.mem_of_mem_filter hd)).1
      rw [List.filter_append, List.filter_append, hnew, hself]
    · rcases List.mem_append.1 hd with hd | hd
      · exact hold d hd hle
      · have := (hown d (List.mem_of_mem_filter hd)).1
        omega
  accepted d hd := by
    rcases List.mem_append.1 hd with hd | hd
    · exact h.accepted d hd
    · exact hown d hd

theorem Gained.other {queues : Dict String (List Delivery)} (h : Gained before added b)
    (hkeeps : Keeps ds b queues) (heq : b'.queues = queues)
    (hold : ∀ d ∈ ds, d.session ≤ before.opened ∧ d ∈ before.deliveries) :
    Gained before added b' where
  kept q := by
    obtain ⟨rest, hrest, hnew, hlogged⟩ := h.kept q
    refine ⟨rest ++ ds.filter fun d => d.destination = q, ?_, ?_, fun d hd hle => ?_⟩
    · rw [stored, heq, hkeeps.stored, hrest, List.append_assoc]
    · have hnone : (ds.filter fun d => d.destination = q).filter
          (fun d => before.opened < d.session) = [] := by
        refine List.filter_eq_nil_iff.2 fun d hd hlt => ?_
        have := (hold d (List.mem_of_mem_filter hd)).1
        have := of_decide_eq_true hlt
        omega
      rw [List.filter_append, hnew, hnone, List.append_nil]
    · rcases List.mem_append.1 hd with hd | hd
      · exact hlogged d hd hle
      · exact (hold d (List.mem_of_mem_filter hd)).2
  accepted := h.accepted

end Gained

/-- Whatever a session is going to add to the queues was sent before. -/
def Harmless (before : Broker) (s : Session) : Prop :=
  ∀ x ∈ s.contents, x.settles = true → x.delivery.session ≤ before.opened
    ∧ x.delivery ∈ before.deliveries

/-- A broker in the course of a call that began on the broker `before`, with the session `n` in
use; number zero stands for none. -/
structure Course (before : Broker) (added : List Delivery) (n : Nat) (b : Broker) : Prop where
  gained : Gained before added b
  script : b.script = before.script
  opened : before.opened ≤ b.opened
  others : ∀ m s, m ≠ n → b.session? m = some s → Harmless before s

section Course

variable {before b b' : Broker} {added : List Delivery} {n : Nat}

theorem course_start (h : OfItself before) : Course before [] 0 before where
  gained := gained_start before
  script := rfl
  opened := Nat.le_refl _
  others m s _ hs x hx _ := by
    obtain ⟨hm, hmem⟩ := h m s hs x hx
    exact ⟨hm ▸ (lt_of_session? hs).2, hmem⟩

theorem settles_of_ack {x : Settlement} (h : x.ruling = .ack) : x.settles = true := by
  rw [Settlement.settles, h]
  rfl

/-- A pass of a session that is not in use adds what had been sent before. -/
theorem Course.pass_other (h : Course before added n b) {m : Nat} (hm : m ≠ n) (k : Nat) :
    Course before added n (b.passFirst k m).1 := by
  rcases hs : b.session? m with _ | s
  · rw [passFirst_none hs]
    exact h
  obtain ⟨queues, confirms, heq, hkeeps⟩ := passFirst_eq hs k
  have hharmless := h.others m s hm hs
  rw [heq]
  refine ⟨h.gained.other hkeeps rfl fun d hd => ?_, h.script, ?_, ?_⟩
  · obtain ⟨x, hx, rfl⟩ := List.mem_map.1 hd
    obtain ⟨hx, hack⟩ := List.mem_filter.1 hx
    exact hharmless x (contents_accept hx) (settles_of_ack (of_decide_eq_true hack))
  · rw [opened_change]
    exact h.opened
  · intro m' s' hm' hs'
    rw [session?_change] at hs'
    split_ifs at hs'
    · obtain ⟨_, -, rfl⟩ := Option.map_eq_some_iff.1 hs'
      exact fun x hx => hharmless x (contents_passed hx)
    · exact h.others m' s' hm' hs'

/-- A pass of the session in use adds what it accepts. -/
theorem Course.pass_own (h : Course before added n b) {s : Session} (hs : b.session? n = some s)
    (k : Nat) (hown : ∀ d ∈ accepted (s.accept k).pending.values,
      before.opened < d.session ∧ before.script d = .ack) :
    Course before (added ++ accepted (s.accept k).pending.values) n (b.passFirst k n).1 := by
  obtain ⟨queues, confirms, heq, hkeeps⟩ := passFirst_eq hs k
  rw [heq]
  refine ⟨h.gained.own hkeeps rfl hown, h.script, ?_, fun m s' hm hs' => ?_⟩
  · rw [opened_change]
    exact h.opened
  · rw [session?_change, if_neg (Ne.symm hm)] at hs'
    exact h.others m s' hm hs'

/-- What is done to the session in use changes nothing as long as the queues stay the same. -/
theorem Course.congr (h : Course before added n b) (hstored : ∀ q, b'.stored q = b.stored q)
    (hscript : b'.script = b.script) (hopened : b'.opened = b.opened)
    (hother : ∀ m, m ≠ n → b'.session? m = b.session? m) : Course before added n b' where
  gained := h.gained.congr hstored
  script := hscript.trans h.script
  opened := hopened ▸ h.opened
  others m s hm hs := h.others m s hm ((hother m hm).symm.trans hs)

/-- The session in use may become another one. -/
theorem Course.updated (h : Course before added n b) {f : Session → Session}
    (hsessions : b'.sessions = (b.update n f).sessions) (hqueues : b'.queues = b.queues)
    (hscript : b'.script = b.script) : Course before added n b' :=
  h.congr (fun q => congrArg (fun queues => (queues.get? q).getD []) hqueues) hscript
    (opened_updated hsessions) fun m hm => (session?_updated hsessions m).trans (if_neg (Ne.symm hm))

theorem Course.clock (h : Course before added n b) (waits now : Nat) (ready : List Nat)
    (due : Dict Nat (List Nat)) : Course before added n { b with waits, now, ready, due } where
  gained := h.gained.congr fun _ => rfl
  script := h.script
  opened := h.opened
  others m s hm hs := by
    cases m with
    | zero => exact h.others 0 s hm hs
    | succ m => exact h.others (m + 1) s hm hs

end Course

/-! ## The session in use -/

/-- The session in use: it is open and listened to, it rules as `rules` says, and only what is
withheld is left of what it has taken in. -/
structure InUse (rules : Script) (n : Nat) (next : Tag) (s : Session) : Prop where
  listened : ∃ l, s.listener = some l
  confirming : s.confirming = true
  unclosed : s.closed = false
  nextTag : s.nextTag = next
  script : s.script = rules
  keyed : ∀ e ∈ s.pending.entries, e.1 = e.2.tag
  withheld : ∀ x ∈ s.pending.values, x.settles = false
  ruled : ∀ x ∈ s.queue, x.ruling = rules x.delivery ∧ x.delivery.session = n

section Settle

variable {α β : Type} (f : α → β) (g : Settlement → β)

/-- A settlement as it is seen in flight. -/
abbrev parcelEntry : Settlement → Tag × Parcel := entry fun x => x.delivery.parcel

theorem inOrder_of_seen {s : Session} {b : Books α} {extra : List (Tag × β)}
    (hkeyed : ∀ e ∈ s.pending.entries, e.1 = e.2.tag)
    (h : seen f b = s.contents.map (entry g) ++ extra) : s.InOrder where
  keyed := hkeyed
  ascending := by
    have hasc := ascending_seen f b
    rw [h] at hasc
    have hcontents := (List.pairwise_append.1 hasc).1
    rw [List.pairwise_map] at hcontents
    exact hcontents

theorem refused_settled (xs : List Settlement) :
    (xs.filter Settlement.settles).filter (fun x => x.ruling = .nack)
      = xs.filter fun x => x.ruling = .nack := by
  rw [List.filter_filter]
  refine List.filter_congr fun x _ => ?_
  cases hx : x.ruling <;> simp [Settlement.settles, Ruling.settles, hx]

/-- Every settlement is accepted, refused or withheld. -/
theorem accepted_refused_withheld : ∀ xs : List Settlement,
    (↑((accepted xs).map Delivery.parcel)
        + ↑((xs.filter fun x => x.ruling = .nack).map fun x => x.delivery.parcel)
        + ↑((xs.filter fun x => !x.settles).map fun x => x.delivery.parcel) : Multiset Parcel)
      = ↑(xs.map fun x => x.delivery.parcel)
  | [] => rfl
  | x :: xs => by
    have ih := accepted_refused_withheld xs
    have hack : Ruling.ack.settles = true := rfl
    have hnack : Ruling.nack.settles = true := rfl
    have hwithhold : Ruling.withhold.settles = false := rfl
    rcases x with ⟨_ | _ | _, d⟩ <;>
      simp only [accepted, List.filter_cons, Settlement.settles, hack, hnack, hwithhold,
        List.map_cons, ← Multiset.cons_coe, Multiset.cons_add, Multiset.add_cons, reduceCtorEq,
        decide_true, decide_false, Bool.not_true, Bool.not_false, ↓reduceIte,
        Bool.false_eq_true] at ih ⊢ <;>
      rw [ih]

end Settle

theorem InUse.passed {rules : Script} {n : Nat} {next : Tag} {s : Session}
    (h : InUse rules n next s) (hs : s.InOrder) (k : Nat) : InUse rules n next (s.passed k) where
  listened := h.listened
  confirming := h.confirming
  unclosed := h.unclosed
  nextTag := h.nextTag
  script := h.script
  keyed := (hs.passed k).keyed
  withheld x hx := by
    rw [hs.values_passed] at hx
    simpa using (List.mem_filter.1 hx).2
  ruled x hx := h.ruled x (List.mem_of_mem_drop hx)

/-- A message that is sent on the session in use gets the next tag and waits to be taken in. -/
theorem InUse.sent {rules : Script} {n : Nat} {next : Tag} {s : Session}
    (h : InUse rules n next s) {d : Delivery} (hd : d.session = n) :
    InUse rules n (next + 1) (s.sent d) where
  listened := h.listened
  confirming := h.confirming
  unclosed := h.unclosed
  nextTag := congrArg (· + 1) h.nextTag
  script := h.script
  keyed := h.keyed
  withheld := h.withheld
  ruled x hx := by
    rcases List.mem_append.1 hx with hx | hx
    · exact h.ruled x hx
    · rw [List.mem_singleton.1 hx]
      exact ⟨congrFun h.script d, hd⟩

theorem contents_split {s : Session} (hs : s.InOrder) (k : Nat) :
    s.contents = (s.accept k).pending.values ++ s.queue.drop k
      ∧ (s.passed k).contents
        = ((s.accept k).pending.values.filter fun x => !x.settles) ++ s.queue.drop k := by
  unfold Session.contents
  rw [hs.values_passed, hs.values_accept, List.append_assoc, List.take_append_drop]
  exact ⟨rfl, rfl⟩

/-- The session in use holds what is in flight, but for `extra`, which was recorded and is not yet
sent; and what was added to the queues, what was refused, what is in flight and the `rest` make up
the `goal`. The next tag is `next`, and no tag in flight is beyond `bound`. -/
structure Held (before : Broker) (parcel : Message → Parcel) (goal : Multiset Parcel) (n : Nat)
    (rest : Multiset Parcel) (extra : List (Tag × Parcel)) (next : Tag) (bound : Nat) (b : Broker)
    (books : Books Message) (added : List Delivery) (s : Session) : Prop where
  course : Course before added n b
  fresh : before.opened < n
  session : b.session? n = some s
  inUse : InUse before.script n next s
  inFlight : seen parcel books = s.contents.map parcelEntry ++ extra
  bounded : ∀ e ∈ seen parcel books, e.1.toNat ≤ bound
  current : books.Current
  account : ↑(added.map Delivery.parcel) + ↑(books.rejected.map parcel)
    + ↑((seen parcel books).map Prod.snd) + rest = goal

/-- What was added and the session in use are as `Held` says. -/
def Holding (before : Broker) (parcel : Message → Parcel) (goal : Multiset Parcel) (n : Nat)
    (rest : Multiset Parcel) (extra : List (Tag × Parcel)) (next : Tag) (bound : Nat) (b : Broker)
    (books : Books Message) : Prop :=
  ∃ added s, Held before parcel goal n rest extra next bound b books added s

section Holding

variable {before b b' : Broker} {parcel : Message → Parcel} {goal rest : Multiset Parcel}
  {n : Nat} {extra : List (Tag × Parcel)} {next : Tag} {bound : Nat} {books : Books Message}
  {added : List Delivery} {s : Session}

/-- A pass of the session in use takes what it settles out of flight, to where it belongs. -/
theorem Held.pass_own (h : Held before parcel goal n rest extra next bound b books added s)
    (k : Nat) : Held before parcel goal n rest extra next bound (b.passFirst k n).1
      (books.handleAll (Client.confirmsOf n (b.passFirst k n).2))
      (added ++ accepted (s.accept k).pending.values) (s.passed k) := by
  obtain ⟨queues, confirms, heq, -⟩ := passFirst_eq h.session k
  have hs := inOrder_of_seen parcel _ h.inUse.keyed h.inFlight
  obtain ⟨l, hl⟩ := h.inUse.listened
  obtain ⟨hcontents, hpassed⟩ := contents_split hs k
  have hseen := h.inFlight
  rw [hcontents, List.map_append, List.append_assoc] at hseen
  obtain ⟨⟨-, hrejected⟩, hleft⟩ := handleAll_reports s.reporting hseen
  have hown : ∀ d ∈ accepted (s.accept k).pending.values,
      before.opened < d.session ∧ before.script d = .ack := by
    intro d hd
    obtain ⟨x, hx, rfl⟩ := List.mem_map.1 hd
    obtain ⟨hx, hack⟩ := List.mem_filter.1 hx
    have hack := of_decide_eq_true hack
    rw [hs.values_accept] at hx
    rcases List.mem_append.1 hx with hx | hx
    · have := h.inUse.withheld x hx
      rw [settles_of_ack hack] at this
      exact absurd this (by decide)
    · obtain ⟨hruling, hsession⟩ := h.inUse.ruled x (List.mem_of_mem_take hx)
      exact ⟨hsession ▸ h.fresh, hruling ▸ hack⟩
  have hcourse := h.course.pass_own h.session k hown
  rw [heq] at hcourse
  rw [heq, hl, confirmsOf_heardBy]
  refine ⟨hcourse, h.fresh, ?_, h.inUse.passed hs k, ?_, ?_, Books.current_handleAll _ h.current, ?_⟩
  · rw [session?_change, if_pos rfl, h.session]
    rfl
  · rw [hleft, hpassed, List.map_append, List.append_assoc]
  · intro e he
    rw [hleft] at he
    refine h.bounded e ?_
    rw [hseen]
    rcases List.mem_append.1 he with he | he
    · exact List.mem_append_left _ (List.map_subset _ (List.filter_subset_self _) he)
    · exact List.mem_append_right _ he
  · have hsnd : ∀ xs : List Settlement,
        (xs.map parcelEntry).map Prod.snd = xs.map fun x => x.delivery.parcel :=
      fun xs => List.map_map
    rw [← h.account, hseen, hleft, hrejected, refused_settled]
    simp only [List.map_append, hsnd, ← Multiset.coe_add]
    rw [← accepted_refused_withheld (s.accept k).pending.values]
    abel

theorem Held.pass_other (h : Held before parcel goal n rest extra next bound b books added s)
    {m : Nat} (hm : m ≠ n) (k : Nat) :
    Held before parcel goal n rest extra next bound (b.passFirst k m).1
      (books.handleAll (Client.confirmsOf n (b.passFirst k m).2)) added s := by
  obtain ⟨hsession, hheard⟩ := passFirst_other b hm k
  rw [hheard]
  exact ⟨h.course.pass_other hm k, h.fresh, hsession.trans h.session, h.inUse, h.inFlight, h.bounded,
    h.current, h.account⟩

/-- No interlude changes what the session in use and the books have in common. -/
theorem Holding.interlude {heard : List Heard}
    (h : Holding before parcel goal n rest extra next bound b books)
    (hidle : Interlude b heard b') :
    Holding before parcel goal n rest extra next bound b'
      (books.handleAll (Client.confirmsOf n heard)) := by
  induction hidle generalizing books with
  | nothing => exact h
  | clock waits now ready due _ ih =>
    obtain ⟨added, s, h⟩ := h
    refine ih ⟨added, s, h.course.clock waits now ready due, h.fresh, ?_, h.inUse, h.inFlight,
      h.bounded, h.current, h.account⟩
    rw [← h.session]
    exact session?_congr rfl n
  | pass k m _ ih =>
    rw [confirmsOf_append, Books.handleAll_append]
    refine ih ?_
    obtain ⟨added, s, h⟩ := h
    by_cases hm : m = n
    · subst hm
      exact ⟨_, _, h.pass_own k⟩
    · exact ⟨_, _, h.pass_other hm k⟩

/-- Without a session in use the passes add only what had been sent before. -/
theorem Course.interlude {heard : List Heard} (h : Course before added 0 b)
    (hidle : Interlude b heard b') : Course before added 0 b' := by
  induction hidle with
  | nothing => exact h
  | clock waits now ready due _ ih => exact ih (h.clock waits now ready due)
  | pass k m _ ih =>
    refine ih ?_
    rcases m with _ | m
    · rw [passFirst_none (n := 0) rfl]
      exact h
    · exact h.pass_other (Nat.succ_ne_zero m) k

/-! ## Calls on the session in use -/

/-- A message that is recorded under the tag announced for it is in flight before it is sent. -/
theorem Holding.recorded {m : Message} {books' : Books Message}
    (h : Holding before parcel goal n (parcel m ::ₘ rest) [] next bound b books)
    (hbound : bound < next.toNat) (hadd : books.add? next m = some books') :
    Holding before parcel goal n rest [(next, parcel m)] next next.toNat b books' := by
  obtain ⟨added, s, h⟩ := h
  have hlt : ∀ e ∈ books.unanswered, e.1 < next := by
    intro e he
    have := h.bounded (e.1, parcel e.2) (List.mem_map.2 ⟨e, he, rfl⟩)
    exact UInt64.lt_iff_toNat_lt.2 (Nat.lt_of_le_of_lt this hbound)
  obtain ⟨books'', hadd', hlast⟩ := Books.add?_last hlt m
  obtain rfl := Option.some.inj (hadd.symm.trans hadd')
  obtain ⟨-, -, -, -, hrejected, hcurrent⟩ := Books.add?_eq_some hadd
  have hseen : seen parcel books' = seen parcel books ++ [(next, parcel m)] := by
    unfold seen
    rw [hlast, List.map_append]
    rfl
  refine ⟨added, s, h.course, h.fresh, h.session, h.inUse, ?_, ?_, hcurrent, ?_⟩
  · rw [hseen, h.inFlight, List.append_nil]
  · intro e he
    rw [hseen] at he
    rcases List.mem_append.1 he with he | he
    · exact Nat.le_of_lt (Nat.lt_of_le_of_lt (h.bounded e he) hbound)
    · rw [List.mem_singleton.1 he]
  · rw [hseen, hrejected, List.map_append, ← Multiset.coe_add, ← h.account]
    simp only [List.map_cons, List.map_nil, Multiset.coe_singleton, ← Multiset.singleton_add]
    abel

theorem Holding.declared (h : Holding before parcel goal n rest extra next bound b books)
    (destination : String) :
    Holding before parcel goal n rest extra next bound (b.declare n destination).state books := by
  obtain ⟨added, s, h⟩ := h
  refine ⟨added, s, ?_⟩
  unfold declare
  rw [openSession?_of_session h.session h.inUse.unclosed]
  exact ⟨h.course.congr (stored_declare b destination) rfl rfl fun m _ => session?_congr rfl m, h.fresh,
    (session?_congr rfl n).trans h.session, h.inUse, h.inFlight, h.bounded, h.current, h.account⟩

/-- Sending what was recorded under the next tag hands it to the session, or fails with no effect.
-/
theorem Holding.transmitted {destination : String} {properties : Properties} {body : ByteArray}
    (h : Holding before parcel goal n rest [(next, ⟨destination, properties, body⟩)] next bound b
      books) :
    match (b.transmit n destination properties body).answer with
    | .ok tag => tag = next ∧ Holding before parcel goal n rest [] (next + 1) bound
        (b.transmit n destination properties body).state books
    | .error _ => Holding before parcel goal n rest [(next, ⟨destination, properties, body⟩)] next
        bound (b.transmit n destination properties body).state books := by
  obtain ⟨added, s, h⟩ := h
  rcases transmit_cases b n destination properties body with
    ⟨fault, transmits, heq⟩ | ⟨s', transmits, hs', -, ⟨-, ready, heq⟩ | ⟨hoff, -⟩⟩
  · rw [heq]
    exact ⟨added, s, h.course.congr (fun _ => rfl) rfl rfl fun m _ => session?_congr rfl m, h.fresh,
      (session?_congr rfl n).trans h.session, h.inUse, h.inFlight, h.bounded, h.current, h.account⟩
  · obtain rfl := Option.some.inj (h.session.symm.trans hs')
    rw [heq]
    let d := b.sentAs n s.nextTag destination properties body
    refine ⟨h.inUse.nextTag, added, s.sent d, h.course.updated (f := Session.sent d) rfl rfl rfl,
      h.fresh, (session?_updated (f := Session.sent d) rfl n).trans ?_, h.inUse.sent rfl, ?_, h.bounded,
      h.current, h.account⟩
    · rw [if_pos rfl, h.session]
      rfl
    · have hcontents : (s.sent d).contents = s.contents ++ [⟨s.script d, d⟩] := by
        unfold Session.contents Session.sent
        rw [List.append_assoc]
      rw [h.inFlight, hcontents, List.map_append, List.append_nil, ← h.inUse.nextTag]
      rfl
  · obtain rfl := Option.some.inj (h.session.symm.trans hs')
    rw [h.inUse.confirming] at hoff
    exact absurd hoff (by decide)

/-- Closing the session in use leaves none in use. -/
theorem Held.closed (h : Held before parcel goal n rest extra next bound b books added s) :
    Course before added 0 (b.close n).state := by
  unfold Broker.close
  rw [openSession?_of_session h.session h.inUse.unclosed]
  have hsession : ∀ m, (b.shut n).session? m
      = if n = m then (b.session? m).map Session.shut else b.session? m := session?_updated rfl
  obtain ⟨closed, ready, due, heq⟩ := shut_eq b n
  refine ⟨h.course.gained.congr fun q => ?_, ?_, ?_, ?_⟩
  · rw [heq]
    rfl
  · rw [heq]
    exact h.course.script
  · rw [heq]
    change before.opened ≤ (b.update n Session.shut).opened
    rw [opened_update]
    exact h.course.opened
  · intro m s' _ hs'
    change (b.shut n).session? m = some s' at hs'
    rw [hsession] at hs'
    split_ifs at hs' with hnm
    · subst hnm
      rw [h.session] at hs'
      obtain rfl := Option.some.inj hs'
      intro x hx hsettles
      rcases List.mem_append.1 hx with hx | hx
      · rw [h.inUse.withheld x hx] at hsettles
        exact absurd hsettles (by decide)
      · exact absurd hx List.not_mem_nil
    · exact h.course.others m s' (fun heq => hnm heq.symm) hs'

end Holding

/-! ## A new session -/

/-- The session in use is new: nothing was sent on it, and its confirms are off. -/
structure New (before : Broker) (added : List Delivery) (n : Nat) (listener : Option Nat)
    (b : Broker) (s : Session) : Prop where
  course : Course before added n b
  fresh : before.opened < n
  session : b.session? n = some s
  contents : s.contents = []
  script : s.script = before.script
  confirming : s.confirming = false
  unclosed : s.closed = false
  listener : s.listener = listener

section New

variable {before b b' : Broker} {added : List Delivery} {n : Nat} {listener : Option Nat}
  {s : Session}

theorem New.pass_own (h : New before added n listener b s) (k : Nat) :
    New before added n listener (b.passFirst k n).1 (s.passed k) := by
  obtain ⟨queues, confirms, heq, hkeeps⟩ := passFirst_eq h.session k
  have hnone : ∀ x, x ∉ s.contents := fun x hx => by
    rw [h.contents] at hx
    exact absurd hx List.not_mem_nil
  rw [heq]
  refine ⟨⟨h.course.gained.other hkeeps rfl fun d hd => ?_, h.course.script, ?_,
    fun m s' hm hs' => ?_⟩, h.fresh, ?_, ?_, h.script, h.confirming, h.unclosed, h.listener⟩
  · obtain ⟨x, hx, -⟩ := List.mem_map.1 hd
    exact absurd (contents_accept (List.mem_of_mem_filter hx)) (hnone x)
  · rw [opened_change]
    exact h.course.opened
  · rw [session?_change, if_neg (Ne.symm hm)] at hs'
    exact h.course.others m s' hm hs'
  · rw [session?_change, if_pos rfl, h.session]
    rfl
  · exact List.eq_nil_iff_forall_not_mem.2 fun x hx => hnone x (contents_passed hx)

theorem New.interlude {heard : List Heard} (h : New before added n listener b s)
    (hidle : Interlude b heard b') : ∃ s', New before added n listener b' s' := by
  induction hidle generalizing s with
  | nothing => exact ⟨s, h⟩
  | clock waits now ready due _ ih =>
    refine ih ⟨h.course.clock waits now ready due, h.fresh, ?_, h.contents, h.script, h.confirming,
      h.unclosed, h.listener⟩
    rw [← h.session]
    exact session?_congr rfl n
  | pass k m _ ih =>
    by_cases hm : m = n
    · subst hm
      exact ih (h.pass_own k)
    · exact ih ⟨h.course.pass_other hm k, h.fresh, (passFirst_other _ hm k).1.trans h.session,
        h.contents, h.script, h.confirming, h.unclosed, h.listener⟩

/-- Opening a session brings a new one in use. -/
theorem Course.openSession (h : Course before added 0 b) (hanswer : b.openSession.answer = .ok n) :
    ∃ s, New before added n none b.openSession.state s := by
  have hnew := session?_openSession hanswer
  obtain ⟨rfl, hstate⟩ := openSession_ok hanswer
  rw [hstate] at hnew ⊢
  have hfresh : before.opened < b.opened + 1 := Nat.lt_succ_of_le h.opened
  refine ⟨.opened b.script, ⟨h.gained.congr fun _ => rfl, h.script, ?_, fun m s' hm hs' => ?_⟩,
    hfresh, hnew, rfl, h.script, rfl, rfl, rfl⟩
  · rw [opened_push]
    exact Nat.le_of_lt hfresh
  · have hother := (session?_push b (.opened b.script) m).symm.trans hs'
    rw [if_neg (show ¬ m = b.opened + 1 from hm)] at hother
    refine h.others m s' (fun hzero => ?_) hother
    subst hzero
    exact absurd hother (by rintro ⟨⟩)

theorem New.listen (h : New before added n none b s) (l : Nat) :
    New before added n (some l) (b.listen n l) { s with listener := some l } := by
  have hsession : (b.listen n l).session? n = some { s with listener := some l } := by
    refine (session?_update b n n _).trans ?_
    rw [if_pos rfl, h.session, Option.map_some]
  have hqueues : (b.listen n l).queues = b.queues ∧ (b.listen n l).script = b.script := by
    unfold Broker.listen
    rw [update_eq]
    exact ⟨rfl, rfl⟩
  exact ⟨h.course.updated rfl hqueues.1 hqueues.2, h.fresh, hsession, h.contents, h.script,
    h.confirming, h.unclosed, rfl⟩

/-- With its confirms turned on, the new session numbers from one. -/
theorem New.enabled {l : Nat} (h : New before added n (some l) b s)
    (parcel : Message → Parcel) (rest : Multiset Parcel) :
    (b.enableConfirms n).answer = .ok ()
      ∧ Holding before parcel (↑(added.map Delivery.parcel) + rest) n rest [] 1 0
          (b.enableConfirms n).state ∅ := by
  have hvalues : s.pending.values = [] := (List.append_eq_nil_iff.1 h.contents).1
  have hqueue : s.queue = [] := (List.append_eq_nil_iff.1 h.contents).2
  rw [enableConfirms_eq h.session h.unclosed h.confirming]
  refine ⟨rfl, added, s.enabled b, h.course.updated (f := Session.enabled b) rfl rfl rfl, h.fresh,
    (session?_updated (f := Session.enabled b) rfl n).trans ?_,
    ⟨⟨l, h.listener⟩, rfl, h.unclosed, rfl, h.script, ?_, ?_, ?_⟩, ?_, ?_, Books.current_empty, ?_⟩
  · rw [if_pos rfl, h.session]
    rfl
  · intro e he
    have hmem : e.2 ∈ s.pending.values := List.mem_map_of_mem he
    rw [hvalues] at hmem
    exact absurd hmem List.not_mem_nil
  · intro x (hx : x ∈ s.pending.values)
    rw [hvalues] at hx
    exact absurd hx List.not_mem_nil
  · intro x (hx : x ∈ s.queue)
    rw [hqueue] at hx
    exact absurd hx List.not_mem_nil
  · have hcontents : (s.enabled b).contents = [] := h.contents
    rw [hcontents]
    rfl
  · exact fun e he => absurd he List.not_mem_nil
  · simp [seen]

end New

end ConfirmedDelivery.Broker
