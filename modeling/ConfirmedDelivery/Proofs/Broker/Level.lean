import ConfirmedDelivery.Proofs.Broker.Stirring
import ConfirmedDelivery.Proofs.Broker.Storage
import ConfirmedDelivery.Proofs.Broker.Turns

/-!
# The session in use and the books

The session in use has taken in some of what was sent and keeps of that only what is withheld; the
rest of what was sent waits in its queue (`Level`, `Squares`). Its next pass takes in that rest too
(`Level.pass`), as soon as it begins where there is no delay (`Level.begin`), and the passes of other
sessions do not touch it (`Level.pass_other`).
-/

namespace ConfirmedDelivery.Broker

/-- What is sent together with the ruling on it. -/
def ruledBy (rules : Script) (x : Message × Delivery) : Settlement := ⟨rules x.2, x.2⟩

/-- What is never answered of what was sent. -/
def ignored (rules : Script) (sent : List (Message × Delivery)) : List (Message × Delivery) :=
  sent.filter fun x => rules x.2 = .withhold

/-- The session in use while a round goes on: of the messages sent it has taken in `taken` and keeps
what is withheld of them, and what is `left` waits in its queue. -/
structure Level (rules : Script) (n : Nat) (next : Tag) (taken left : List (Message × Delivery))
    (b : Broker) (s : Session) : Prop where
  session : b.session? n = some s
  inUse : InUse rules n next s
  pending : s.pending.values = (ignored rules taken).map (ruledBy rules)
  queue : s.queue = left.map (ruledBy rules)
  unconfirmed : s.unconfirmed = (ignored rules taken ++ left).length
  unscheduled : n ∉ b.scheduled

/-- Books in which the messages that were `taken` are settled as the script has it; in flight are
those withheld and those that are `left`. -/
structure Squares (rules : Script) (taken left : List (Message × Delivery)) (books : Books Message) :
    Prop where
  unanswered : books.unanswered = (ignored rules taken ++ left).map fun x => (x.2.tag, x.1)
  acked : books.acked = taken.countP fun x => rules x.2 = .ack
  rejected : books.rejected = refused rules taken
  current : books.Current

section Ignored

variable {rules : Script}

theorem ignored_append (sent more : List (Message × Delivery)) :
    ignored rules (sent ++ more) = ignored rules sent ++ ignored rules more :=
  List.filter_append ..

theorem ignored_ignored (sent : List (Message × Delivery)) :
    ignored rules (ignored rules sent) = ignored rules sent := by
  unfold ignored
  rw [List.filter_filter]
  exact List.filter_congr fun _ _ => Bool.and_self _

theorem ignored_of_answers (hanswers : ∀ d, rules d ≠ .withhold)
    (sent : List (Message × Delivery)) : ignored rules sent = [] :=
  List.filter_eq_nil_iff.2 fun x _ hx => hanswers x.2 (of_decide_eq_true hx)

theorem refused_ignored (sent : List (Message × Delivery)) :
    refused rules (ignored rules sent) = [] := by
  unfold refused ignored
  rw [List.filter_filter, List.map_eq_nil_iff, List.filter_eq_nil_iff]
  intro x _ hx
  cases hx' : rules x.2 <;> simp [hx'] at hx

/-- What is accepted is among what is settled. -/
theorem countP_settled (xs : List Settlement) :
    (xs.filter Settlement.settles).countP (fun x => x.ruling = .ack)
      = xs.countP fun x => x.ruling = .ack := by
  have h := congrArg List.length (accepted_settled xs)
  unfold accepted at h
  rwa [List.length_map, List.length_map, ← List.countP_eq_length_filter,
    ← List.countP_eq_length_filter] at h

/-- What is not settled is withheld. -/
theorem filter_unsettled (sent : List (Message × Delivery)) :
    (sent.map (ruledBy rules)).filter (fun x => !x.settles)
      = (ignored rules sent).map (ruledBy rules) := by
  unfold ignored
  rw [List.filter_map]
  congr 1
  refine List.filter_congr fun x _ => ?_
  cases hx : rules x.2 <;> simp [ruledBy, Settlement.settles, Ruling.settles, hx]

end Ignored

section Level

variable {rules : Script} {n : Nat} {next : Tag} {taken left : List (Message × Delivery)}
  {b b' : Broker} {s : Session} {books : Books Message}

theorem Level.congr (h : Level rules n next taken left b s)
    (hsession : b'.session? n = b.session? n) (hscheduled : n ∈ b'.scheduled → n ∈ b.scheduled) :
    Level rules n next taken left b' s where
  session := hsession.trans h.session
  inUse := h.inUse
  pending := h.pending
  queue := h.queue
  unconfirmed := h.unconfirmed
  unscheduled hn := h.unscheduled (hscheduled hn)

theorem Level.contents (h : Level rules n next taken left b s) :
    s.contents = (ignored rules taken ++ left).map (ruledBy rules) := by
  unfold Session.contents
  rw [h.pending, h.queue, List.map_append]

/-- What is in flight is seen so by the session. -/
theorem Squares.get? (h : Squares rules taken left books) {x : Message × Delivery}
    (hx : x ∈ ignored rules taken ++ left) : books.inFlight.get? x.2.tag = some x.1 := by
  have hmem : (x.2.tag, x.1) ∈ books.unanswered := by
    rw [h.unanswered]
    exact List.mem_map_of_mem hx
  exact Dict.get?_eq_some.2 hmem

/-- What a session holds is in flight, each message under its tag. -/
theorem Level.seen (h : Level rules n next taken left b s) (hbooks : Squares rules taken left books) :
    seen some books = s.contents.map (entry fun x => books.inFlight.get? x.tag) := by
  unfold Broker.seen
  rw [h.contents, hbooks.unanswered, List.map_map, List.map_map]
  exact List.map_congr_left fun x hx => congrArg (x.2.tag, ·) (hbooks.get? hx).symm

/-- A message that is sent is the last of what is left. -/
theorem Level.sent (h : Level rules n next taken left b s) (m : Message) {d : Delivery}
    (hd : d.session = n) (hsessions : b'.sessions = (b.update n (Session.sent d)).sessions)
    (hdue : b'.due = b.due) : Level rules n (next + 1) taken (left ++ [(m, d)]) b' (s.sent d) where
  session := by
    rw [session?_updated hsessions, if_pos rfl, h.session]
    rfl
  inUse := h.inUse.sent hd
  pending := h.pending
  queue := by
    change s.queue ++ [⟨s.script d, d⟩] = _
    rw [h.queue, h.inUse.script, List.map_append]
    rfl
  unconfirmed := by
    change s.unconfirmed + 1 = _
    rw [h.unconfirmed]
    simp only [List.length_append, List.length_singleton, Nat.add_assoc]
  unscheduled hn := by
    unfold scheduled at hn
    rw [hdue] at hn
    exact h.unscheduled hn

/-- A message that is recorded under a tag beyond all others is the last of what is left. -/
theorem Squares.recorded (h : Squares rules taken left books) {m : Message} {d : Delivery}
    {books' : Books Message} (hlast : ∀ e ∈ books.unanswered, e.1 < d.tag)
    (hadd : books.add? d.tag m = some books') :
    Squares rules taken (left ++ [(m, d)]) books' := by
  obtain ⟨books'', hadd', hunanswered⟩ := Books.add?_last hlast m
  obtain rfl := Option.some.inj (hadd.symm.trans hadd')
  obtain ⟨-, -, hacked, -, hrejected, hcurrent⟩ := Books.add?_eq_some hadd
  refine ⟨?_, hacked.trans h.acked, hrejected.trans h.rejected, hcurrent⟩
  rw [hunanswered, h.unanswered]
  simp only [List.map_append, List.map_cons, List.map_nil, List.append_assoc]

/-- Books that take in what a pass reports have settled everything that was left, but for what is
withheld. -/
theorem Squares.settle (h : Squares rules taken left books) {books' : Books Message}
    {g : Settlement → Option Message}
    (hg : ∀ x ∈ ignored rules taken ++ left, g (ruledBy rules x) = some x.1)
    (hsettled : Settled some g
      (((ignored rules taken ++ left).map (ruledBy rules)).filter Settlement.settles) books books')
    (hseen : Broker.seen some books'
      = ((ignored rules (taken ++ left)).map (ruledBy rules)).map (entry g))
    (hcurrent : books'.Current) : Squares rules (taken ++ left) [] books' where
  unanswered := by
    have hinjective : Function.Injective fun e : Tag × Message => (e.1, some e.2) := by
      rintro ⟨t, m⟩ ⟨t', m'⟩ heq
      simp_all
    refine List.map_injective_iff.2 hinjective (hseen.trans ?_)
    rw [List.map_map, List.map_map, List.append_nil]
    refine List.map_congr_left fun x hx => congrArg (x.2.tag, ·) (hg x ?_)
    rw [ignored_append] at hx
    exact (List.mem_append.1 hx).elim (List.mem_append_left _)
      fun hx => List.mem_append_right _ (List.mem_of_mem_filter hx)
  acked := by
    have hnone : (ignored rules taken).countP (fun x => rules x.2 = .ack) = 0 := by
      refine List.countP_eq_zero.2 fun x hx hack => ?_
      have hignored := of_decide_eq_true (List.mem_filter.1 hx).2
      rw [of_decide_eq_true hack] at hignored
      cases hignored
    rw [hsettled.acked, h.acked, List.countP_append, countP_settled, List.countP_map,
      List.countP_append]
    change _ + ((ignored rules taken).countP (fun x => rules x.2 = .ack) + _) = _
    rw [hnone, Nat.zero_add]
    rfl
  rejected := by
    have hrejected := hsettled.rejected
    have hleft : (((ignored rules taken ++ left).map (ruledBy rules)).filter
        fun x => x.ruling = .nack).map g = (refused rules left).map some := by
      rw [← List.nil_append (refused rules left), ← refused_ignored taken, ← refused_append]
      unfold refused
      rw [List.filter_map, List.map_map, List.map_map]
      exact List.map_congr_left fun x hx => hg x (List.mem_of_mem_filter hx)
    rw [refused_settled, hleft, h.rejected, ← List.map_append, ← refused_append] at hrejected
    exact List.map_injective_iff.2 (Option.some_injective _) hrejected
  current := hcurrent

theorem Level.queued (h : Level rules n next taken left b s) : b.queued n = s.queue.length := by
  unfold Broker.queued
  rw [h.session]
  rfl

theorem Level.inOrder (h : Level rules n next taken left b s)
    (hbooks : Squares rules taken left books) : s.InOrder :=
  inOrder_of_seen some _ h.inUse.keyed (by rw [List.append_nil]; exact h.seen hbooks)

/-- What the next pass of the session in use is going to report on. -/
theorem Level.values_accept (h : Level rules n next taken left b s)
    (hbooks : Squares rules taken left books) :
    (s.accept s.queue.length).pending.values = (ignored rules taken ++ left).map (ruledBy rules) := by
  rw [(h.inOrder hbooks).values_accept, List.take_length]
  exact h.contents

/-- A pass of the session in use takes in everything that was sent on it. -/
theorem Level.pass (h : Level rules n next taken left b s) (hbooks : Squares rules taken left books) :
    Level rules n next (taken ++ left) [] (b.pass n).1 (s.passed s.queue.length)
      ∧ Squares rules (taken ++ left) []
        (books.handleAll (Client.confirmsOf n (b.pass n).2)) := by
  have hseen := h.seen hbooks
  have hs := h.inOrder hbooks
  have hvalues := h.values_accept hbooks
  have hstays : ((ignored rules taken ++ left).map (ruledBy rules)).filter (fun x => !x.settles)
      = (ignored rules (taken ++ left)).map (ruledBy rules) := by
    rw [filter_unsettled, ignored_append, ignored_append, ignored_ignored]
  obtain ⟨queues, confirms, heq, -⟩ := passFirst_eq h.session s.queue.length
  obtain ⟨l, hl⟩ := h.inUse.listened
  rw [Broker.pass, h.queued, heq, hl, confirmsOf_heardBy, hvalues]
  constructor
  · refine ⟨?_, h.inUse.passed hs _, ?_, List.drop_length, ?_, h.unscheduled⟩
    · rw [session?_change, if_pos rfl, h.session]
      rfl
    · rw [hs.values_passed, List.take_length]
      exact (congrArg (List.filter fun x => !x.settles) h.contents).trans hstays
    · change s.unconfirmed - ((s.accept s.queue.length).pending.values.filter _).length = _
      have hlen := List.length_eq_length_filter_add (l := (ignored rules taken ++ left).map
        (ruledBy rules)) Settlement.settles
      rw [hstays, List.length_map, List.length_map, ← h.unconfirmed] at hlen
      rw [hvalues, List.append_nil]
      omega
  · rw [h.contents, ← List.append_nil (List.map _ (List.map _ _))] at hseen
    obtain ⟨hsettled, hleft⟩ := handleAll_reports s.reporting hseen
    rw [hstays, List.append_nil] at hleft
    exact hbooks.settle (fun x hx => hbooks.get? hx) hsettled hleft
      (Books.current_handleAll _ hbooks.current)

theorem Level.pass_other (h : Level rules n next taken left b s) {m : Nat} (hm : m ≠ n) (k : Nat) :
    Level rules n next taken left (b.passFirst k m).1 s := by
  refine h.congr (passFirst_other b hm k).1 fun hn => ?_
  unfold scheduled at hn ⊢
  rwa [due_passFirst] at hn

/-- When the session in use begins its pass without delay, it takes in everything that was sent on
it. -/
theorem Level.begin (h : Level rules n next taken left b s) (hbooks : Squares rules taken left books)
    (hprompt : s.delay.nanos = 0) :
    ∃ s', s'.delay = s.delay ∧ Level rules n next (taken ++ left) [] (b.beginPass n).1 s'
      ∧ Squares rules (taken ++ left) []
        (books.handleAll (Client.confirmsOf n (b.beginPass n).2)) := by
  unfold beginPass
  rw [h.session]
  dsimp only
  split_ifs with hempty
  · have hqueue := List.isEmpty_iff.1 hempty
    rw [h.queue, List.map_eq_nil_iff] at hqueue
    subst hqueue
    rw [List.append_nil]
    exact ⟨s, rfl, h, hbooks⟩
  · exact ⟨s.passed s.queue.length, rfl, h.pass hbooks⟩

end Level

end ConfirmedDelivery.Broker
