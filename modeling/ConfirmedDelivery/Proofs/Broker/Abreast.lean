import ConfirmedDelivery.Proofs.Acceptance
import ConfirmedDelivery.Proofs.Broker.Exactly
import ConfirmedDelivery.Proofs.Broker.Exchange
import ConfirmedDelivery.Proofs.Broker.Spoken

/-!
# The session and the books keep abreast

In every state of an exchange what the session counts is what it holds, and the books have that in
flight and what is recorded and not yet sent (`Exchange.Abreast`). A confirm is for a tag that the
session holds, so none is for the tag of what is not yet sent; and a wait that comes back in time
leaves nothing in flight. The states between the steps of a round are such states (`Going`).
-/

namespace ConfirmedDelivery.Broker

/-! ## In every state of an exchange -/

theorem watch_done {ε σ α : Type} (absorb : α → List ε → σ → α) (done : α → Bool) :
    ∀ (lull : Lull ε σ) (a : α), (lull.watch absorb done a).1 = true →
      done (lull.watch absorb done a).2 = true
  | .timeUp _ _, _, h => absurd h Bool.noConfusion
  | .stir events s next, a, h => by
    unfold Lull.watch at h ⊢
    dsimp only at h ⊢
    split_ifs at h ⊢ with hdone
    · exact hdone
    · exact watch_done absorb done next _ h

/-- A wait that comes back in time has seen everything answered for. -/
theorem allConfirmed_of_awaited {b : Broker} {n : Nat} {timeout : Span}
    (h : (b.awaitConfirms n timeout).answer = .ok true) :
    (b.awaitConfirms n timeout).state.allConfirmed n = true := by
  unfold awaitConfirms at h ⊢
  cases hs : b.openSession? n with
  | error fault =>
    rw [hs] at h
    exact absurd h (by rintro ⟨⟩)
  | ok s =>
    rw [hs] at h
    dsimp only at h ⊢
    split_ifs at h ⊢ with hoff hall
    · exact absurd h (by rintro ⟨⟩)
    · exact hall
    · exact watch_done _ _ _ _ (Except.ok.inj h)

namespace Exchange

variable {parcel : Message → Parcel} {e : Exchange} {s : Session} {lost : List Settlement}

/-- An open session and the books of its publisher, as they are in every state. -/
structure Abreast (e : Exchange) (s : Session) : Prop where
  /-- The session counts what it has taken in and what it is to take in. -/
  count : s.unconfirmed = s.pending.size + s.queue.length
  /-- No pass takes more off the count than there is. -/
  enough : ∀ k, ((s.accept k).pending.values.filter Settlement.settles).length ≤ s.unconfirmed
  /-- The books have the same in flight, and what is recorded and not yet sent. -/
  tags : e.books.inFlight.tags
    = s.contents.map Settlement.tag ++ e.unsent.toList.map fun _ => s.nextTag
  /-- No confirm speaks for what is not yet sent. -/
  apart : e.unsent ≠ none → ∀ k m, ∀ c ∈ Client.confirmsOf e.client.session
    (e.client.broker.passFirst k m).2, c.covers s.nextTag = false
  /-- When a wait comes back in time, nothing is in flight. -/
  awaited : ∀ timeout, e.unsent = none → e.answer (fun b n => b.awaitConfirms n timeout) = .ok true →
    (e.after fun b n => b.awaitConfirms n timeout).books.inFlight.isEmpty = true

/-- What a session answers is about what it holds. -/
theorem told_of_contents {k : Nat} {c : Confirm} (h : c ∈ s.told k) :
    ∃ x ∈ s.contents, c.tag = x.tag := by
  obtain ⟨run, hrun, hc⟩ := List.mem_filterMap.1 h
  obtain ⟨x, hx, rfl⟩ := last_of_confirmOf hc
  have hmem : x ∈ (reports s.reporting (s.accept k).pending.values).flatten :=
    List.mem_flatten.2 ⟨run, hrun, List.mem_of_getLast? hx⟩
  rw [flatten_reports] at hmem
  exact ⟨x, contents_accept (List.mem_of_mem_filter hmem), rfl⟩

theorem not_covers_of_lt {c : Confirm} {t : Tag} (h : c.tag < t) : c.covers t = false := by
  unfold Scope.covers
  split_ifs
  · exact decide_eq_false (Std.not_le.2 h)
  · exact beq_eq_false_iff_ne.2 (Std.ne_of_lt h).symm

/-- Once everything is answered for, only what is not yet sent is in flight. -/
theorem Balanced.tags_of_allConfirmed (h : Balanced parcel e s lost)
    (hall : e.client.broker.allConfirmed e.client.session = true) :
    e.books.inFlight.tags = e.unsent.toList.map fun _ => s.nextTag := by
  have hzero : s.unconfirmed = 0 := by
    unfold allConfirmed at hall
    rw [h.session] at hall
    exact beq_iff_eq.1 hall
  rw [h.tags, List.length_eq_zero_iff.1 (h.count.symm.trans hzero)]
  rfl

theorem Balances.empty_of_allConfirmed (h : Balances parcel e) (hfew : e.recorded < 2 ^ 64)
    (hnone : e.unsent = none) (hall : e.client.broker.allConfirmed e.client.session = true) :
    e.books.unanswered = [] := by
  obtain ⟨s, lost, h⟩ := h hfew
  have htags := h.tags_of_allConfirmed hall
  rw [hnone] at htags
  exact List.map_eq_nil_iff.1 htags

theorem Balances.abreast (h : Balances parcel e) (hfew : e.recorded < 2 ^ 64) :
    ∃ s, e.client.broker.session? e.client.session = some s ∧ (s.closed = false → Abreast e s) := by
  obtain ⟨s, lost, hb⟩ := h hfew
  refine ⟨s, hb.session, fun hopen => ?_⟩
  obtain rfl := hb.unbroken hopen
  refine ⟨?_, hb.settled_le, ?_, fun hsome k m c hc => ?_, fun timeout hnone hawaited => ?_⟩
  · rw [hb.count, List.append_nil, Session.contents, List.length_append, Dict.values,
      List.length_map]
    rfl
  · rw [hb.tags, List.append_nil]
  · by_cases hm : m = e.client.session
    · subst hm
      obtain ⟨l, hl⟩ := hb.listened
      rw [passFirst_exact hb.session, hl, confirmsOf_heardBy] at hc
      obtain ⟨x, hx, htag⟩ := told_of_contents hc
      have hless : e.sent + 1 < 2 ^ 64 := by
        obtain ⟨m, hm⟩ := Option.ne_none_iff_exists'.1 hsome
        rwa [← hb.recorded_eq hm]
      exact not_covers_of_lt (htag ▸ hb.lt_nextTag hless (List.mem_append_left _ hx))
    · rw [(passFirst_other e.client.broker hm k).2] at hc
      exact absurd hc List.not_mem_nil
  · have hafter := h.interlude (interlude_awaitConfirms _ e.client.session timeout) rfl
    have hempty := hafter.empty_of_allConfirmed hfew hnone (allConfirmed_of_awaited hawaited)
    exact beq_iff_eq.2 (List.length_eq_zero_iff.2 hempty)

/-! ## Rounds are exchanges -/

/-- What an exchange on a new session can come to. -/
def Reached (parcel : Message → Parcel) (e : Exchange) : Prop :=
  ∃ e₀ acts, Fresh e₀ ∧ (e₀.run parcel acts).1 = e

theorem run_append : ∀ (acts more : List Act) (e : Exchange),
    (e.run parcel (acts ++ more)).1 = ((e.run parcel acts).1.run parcel more).1
  | [], _, _ => rfl
  | _ :: acts, more, _ => run_append acts more _

theorem Reached.balances (h : Reached parcel e) : Balances parcel e := by
  obtain ⟨e₀, acts, hfresh, rfl⟩ := h
  exact hfresh.balances.run acts

theorem Reached.run (h : Reached parcel e) (acts : List Act) :
    Reached parcel (e.run parcel acts).1 := by
  obtain ⟨e₀, before, hfresh, rfl⟩ := h
  exact ⟨e₀, before ++ acts, hfresh, run_append before acts e₀⟩

theorem Reached.step (h : Reached parcel e) (a : Act) : Reached parcel (e.step parcel a).1 :=
  h.run [a]

/-- Interludes are passes and the clock moving on. -/
theorem Reached.interlude {b b' : Broker} {heard : List Heard} (hidle : Interlude b heard b') :
    ∀ {e : Exchange}, e.client.broker = b → Reached parcel e → Reached parcel (e.hear b' heard) := by
  induction hidle with
  | nothing b =>
    rintro e rfl h
    exact h
  | clock waits now ready due _ ih =>
    rintro e rfl h
    exact ih (e := e.hear { e.client.broker with waits, now, ready, due } []) rfl
      (h.step (.clock waits now ready due))
  | pass k m _ ih =>
    rintro e rfl h
    rw [← hear_hear]
    exact ih (e := e.hear _ _) rfl (h.step (.pass k m))

end Exchange

section Round

variable {σ : Type} {view : σ → Client} {link : Link σ}

/-- A link that says that everything is answered for only if it is. -/
def Honest (view : σ → Client) (link : Link σ) : Prop :=
  ∀ timeout s, (link.awaitConfirms timeout s).answer = .ok true →
    (view (link.awaitConfirms timeout s).state).broker.allConfirmed (view s).session = true

theorem answer_call {α : Type} (c : Client) (op : Broker → Nat → Answer α) :
    (c.call op).answer = (op c.broker c.session).answer := by
  change (op c.broker c.session).answer.map id = _
  cases (op c.broker c.session).answer <;> rfl

theorem Client.honest : Honest id Client.link := fun timeout c h =>
  allConfirmed_of_awaited ((answer_call c fun b n => b.awaitConfirms n timeout).symm.trans h)

open Exchange

/-- The session `n` and the books have come there by an exchange, and at most `k` messages are in
flight. -/
structure Going (parcel : Message → Parcel) (n k : Nat) (unsent : Option Message) (recorded : Nat)
    (b : Broker) (books : Books Message) : Prop where
  reached : Reached parcel ⟨⟨b, n⟩, books, unsent, recorded⟩
  size : books.unanswered.length ≤ k
  few : recorded < 2 ^ 64

section Going

variable {parcel : Message → Parcel} {n k : Nat} {unsent : Option Message} {recorded : Nat}
  {b : Broker} {books : Books Message}

theorem stable_going : Stable n (Going parcel n k unsent recorded) :=
  fun _ _ _ books h hidle =>
    ⟨h.reached.interlude hidle rfl, (Books.length_handleAll _ books).trans h.size, h.few⟩

theorem Going.declare (h : Going parcel n k unsent recorded b books) (destination : String) :
    Going parcel n k unsent recorded (b.declare n destination).state books := by
  refine ⟨?_, h.size, h.few⟩
  have hstep := h.reached.step (.declare destination)
  unfold Exchange.step after at hstep
  dsimp only at hstep
  rwa [events_declare] at hstep

theorem Going.close (h : Going parcel n k unsent recorded b books) :
    Going parcel n k unsent recorded (b.close n).state books := by
  refine ⟨?_, h.size, h.few⟩
  have hstep := h.reached.step .close
  unfold Exchange.step after at hstep
  dsimp only at hstep
  rwa [events_close] at hstep

/-- The announced tag is one more than the number of messages sent. -/
theorem Going.nextTag (h : Going parcel n k unsent recorded b books) :
    b.nextTag n = UInt64.ofNat (recorded - unsent.toList.length + 1) := by
  obtain ⟨s, lost, hb⟩ := h.reached.balances h.few
  exact hb.nextTag_eq.trans hb.nextTag

theorem Going.record (h : Going parcel n k none recorded b books) (hfew : recorded + 1 < 2 ^ 64)
    {m : Message} {books' : Books Message} (hadd : books.add? (b.nextTag n) m = some books') :
    Going parcel n (k + 1) (some m) (recorded + 1) b books' := by
  refine ⟨?_, ?_, hfew⟩
  · have hstep := h.reached.step (.record m)
    unfold Exchange.step at hstep
    dsimp only at hstep
    rwa [hadd] at hstep
  · rw [(Books.add?_eq_some hadd).2.1.length_eq, List.length_cons]
    exact Nat.succ_le_succ h.size

theorem Going.send {m : Message} (h : Going parcel n k (some m) (recorded + 1) b books) :
    match (transmission (parcel m) b n).answer with
    | .ok tag => tag = UInt64.ofNat (recorded + 1)
      ∧ Going parcel n k none (recorded + 1) (transmission (parcel m) b n).state books
    | .error _ => Going parcel n k (some m) (recorded + 1) (transmission (parcel m) b n).state
      books := by
  obtain ⟨s, lost, hb⟩ := h.reached.balances h.few
  have hsend := hb.send rfl h.few
  have hnext : s.nextTag = UInt64.ofNat (recorded + 1) := hb.nextTag
  have hstep := h.reached.step .send
  have hquiet : (transmission (parcel m) b n).events = [] := events_transmit ..
  unfold Exchange.step after answer at hstep
  unfold answer at hsend
  dsimp only at hstep hsend
  rw [hquiet] at hstep
  cases hanswer : (transmission (parcel m) b n).answer with
  | ok tag =>
    rw [hanswer] at hstep hsend
    exact ⟨hsend.1.trans hnext, hstep, h.size, h.few⟩
  | error fault =>
    rw [hanswer] at hstep
    exact ⟨hstep, h.size, h.few⟩

/-- Once everything is answered for, nothing is in flight. -/
theorem Going.emptied (h : Going parcel n k none recorded b books)
    (hall : b.allConfirmed n = true) : Going parcel n 0 none recorded b books := by
  refine ⟨h.reached, ?_, h.few⟩
  rw [h.reached.balances.empty_of_allConfirmed h.few rfl hall]
  exact Nat.le_refl 0

theorem Going.current (h : Going parcel n k unsent recorded b books) : books.Current := by
  obtain ⟨s, lost, hb⟩ := h.reached.balances h.few
  exact hb.current

end Going

/-- A session that was opened and not used yet. -/
structure Untouched (n : Nat) (listener : Option Nat) (b : Broker) (s : Session) : Prop where
  session : b.session? n = some s
  contents : s.contents = []
  unconfirmed : s.unconfirmed = 0
  confirming : s.confirming = false
  unclosed : s.closed = false
  listener : s.listener = listener

section Untouched

variable {n : Nat} {listener : Option Nat} {b b' : Broker} {s : Session}

theorem untouched_openSession (h : b.openSession.answer = .ok n) :
    Untouched n none b.openSession.state (.opened b.script) :=
  ⟨session?_openSession h, rfl, rfl, rfl, rfl, rfl⟩

theorem Untouched.interlude {heard : List Heard} (hidle : Interlude b heard b') :
    ∀ {s : Session}, Untouched n listener b s → ∃ s', Untouched n listener b' s' := by
  induction hidle with
  | nothing => exact fun h => ⟨_, h⟩
  | clock waits now ready due _ ih =>
    exact fun h => ih { h with session := (session?_congr rfl n).trans h.session }
  | @pass b _ _ k m _ ih =>
    intro s h
    by_cases hm : m = n
    · subst hm
      have hnone : ∀ x, x ∉ (s.passed k).contents := fun x hx => by
        have hx := contents_passed hx
        rw [h.contents] at hx
        exact absurd hx List.not_mem_nil
      have hsession : (b.passFirst k m).1.session? m = some (s.passed k) := by
        rw [passFirst_exact h.session, session?_change, if_pos rfl, h.session]
        rfl
      refine ih (s := s.passed k) ⟨hsession, List.eq_nil_iff_forall_not_mem.2 hnone, ?_,
        h.confirming, h.unclosed, h.listener⟩
      change s.unconfirmed - _ = 0
      rw [h.unconfirmed, Nat.zero_sub]
    · exact ih { h with session := (passFirst_other b hm k).1.trans h.session }

theorem Untouched.listen (h : Untouched n listener b s) (l : Nat) :
    Untouched n (some l) (b.listen n l) { s with listener := some l } := by
  refine { h with session := ?_, listener := rfl }
  rw [Broker.listen, session?_update, if_pos rfl, h.session, Option.map_some]

/-- With its confirms turned on an exchange begins. -/
theorem Untouched.enabled {l : Nat} (h : Untouched n (some l) b s) (parcel : Message → Parcel) :
    (b.enableConfirms n).answer = .ok ()
      ∧ Going parcel n 0 none 0 (b.enableConfirms n).state ∅ := by
  have hsession := session?_updated
    (congrArg (fun r => r.state.sessions) (enableConfirms_eq h.session h.unclosed h.confirming)) n
  rw [if_pos rfl, h.session, Option.map_some] at hsession
  constructor
  · rw [enableConfirms_eq h.session h.unclosed h.confirming]
    rfl
  · have hfresh : Fresh ⟨⟨(b.enableConfirms n).state, n⟩, ∅, none, 0⟩ :=
      ⟨⟨s.enabled b, l, hsession, h.listener, rfl, h.unclosed, rfl, h.unconfirmed, h.contents⟩,
        rfl, rfl, rfl⟩
    exact ⟨⟨_, [], hfresh, rfl⟩, Nat.le_refl 0, by decide⟩

end Untouched

end Round

end ConfirmedDelivery.Broker
