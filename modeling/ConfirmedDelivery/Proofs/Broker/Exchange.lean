import ConfirmedDelivery.Proofs.Broker.Storage

/-!
# A publisher and its session

What a publisher does on one session of a broker in memory, and what the broker does meanwhile, is
an exchange: a message is recorded under the tag announced for it, what was recorded is sent, some
session passes, somebody waits (`Act`). The books of the publisher hear the confirms of the session
as they come (`Exchange.step`). In every state of an exchange the session counts what it holds, and
the books have in flight what it holds and what is recorded but not yet sent (`Balanced`), unless so
many messages were recorded that tags repeat (`Balances.run`).
-/

namespace ConfirmedDelivery.Broker

/-- A session in use and the books of the publisher that uses it. -/
structure Exchange where
  client : Client
  books : Books Message
  /-- Recorded under the tag announced for it, and not yet sent. -/
  unsent : Option Message
  /-- How many messages were recorded. -/
  recorded : Nat

/-- What may happen next in an exchange. -/
inductive Act where
  | record (m : Message)
  | send
  | declare (destination : String)
  | await (timeout : Span)
  | sleep (time : Span)
  | close
  /-- Session `m` passes, and takes in the first `k` messages sent on it. -/
  | pass (k m : Nat)
  | clock (waits now : Nat) (ready : List Nat) (due : Dict Nat (List Nat))

/-- What the publisher learns from it. -/
inductive Response where
  | nothing
  | recorded (tag : Option Tag)
  | sent (answer : Except LinkFault Tag)
  | called (answer : Except LinkFault Unit)
  | awaited (answer : Except LinkFault Bool)

namespace Exchange

/-- Goes on with another state of the broker, on which this was heard. -/
def hear (e : Exchange) (b : Broker) (heard : List Heard) : Exchange :=
  { e with
    client := ⟨b, e.client.session⟩
    books := e.books.handleAll (Client.confirmsOf e.client.session heard) }

theorem hear_hear (e : Exchange) (b b' : Broker) (heard more : List Heard) :
    (e.hear b heard).hear b' more = e.hear b' (heard ++ more) := by
  unfold hear
  rw [confirmsOf_append, Books.handleAll_append]

/-- Goes on after a call on the session in use. -/
def after {α : Type} (e : Exchange) (call : Broker → Nat → Answer α) : Exchange :=
  let reply := call e.client.broker e.client.session
  e.hear reply.state reply.events

/-- What a call on the session in use answers. -/
def answer {α : Type} (e : Exchange) (call : Broker → Nat → Answer α) : Except LinkFault α :=
  (call e.client.broker e.client.session).answer

/-- Sends a parcel. -/
def transmission (parcel : Parcel) (b : Broker) (n : Nat) : Answer Tag :=
  b.transmit n parcel.destination parcel.properties parcel.body

variable (parcel : Message → Parcel)

/-- One step. Only one message is recorded before it is sent, and only what was recorded is sent. -/
def step (e : Exchange) : Act → Exchange × Response
  | .record m =>
    let tag := e.client.broker.nextTag e.client.session
    match e.unsent, e.books.add? tag m with
    | none, some books =>
      ({ e with books, unsent := some m, recorded := e.recorded + 1 }, .recorded (some tag))
    | _, _ => (e, .recorded none)
  | .send =>
    match e.unsent with
    | none => (e, .nothing)
    | some m =>
      let call := transmission (parcel m)
      let unsent := match e.answer call with
        | .ok _ => none
        | .error _ => e.unsent
      ({ e.after call with unsent }, .sent (e.answer call))
  | .declare destination =>
    let call := fun b n => declare b n destination
    (e.after call, .called (e.answer call))
  | .await timeout =>
    let call := fun b n => awaitConfirms b n timeout
    (e.after call, .awaited (e.answer call))
  | .sleep time =>
    let call := fun b _ => Broker.sleep b time
    (e.after call, .called (e.answer call))
  | .close => (e.after Broker.close, .called (e.answer Broker.close))
  | .pass k m =>
    let (b, heard) := e.client.broker.passFirst k m
    (e.hear b heard, .nothing)
  | .clock waits now ready due =>
    (e.hear { e.client.broker with waits, now, ready, due } [], .nothing)

/-- One step after another. -/
def run (e : Exchange) : List Act → Exchange × List Response
  | [] => (e, [])
  | a :: acts =>
    let (e, response) := e.step parcel a
    let (e, responses) := e.run acts
    (e, response :: responses)

/-- The session is new: it is open, listened to and numbers from one. -/
structure Fresh (e : Exchange) : Prop where
  session : ∃ s l, e.client.broker.session? e.client.session = some s ∧ s.listener = some l
    ∧ s.confirming = true ∧ s.closed = false ∧ s.nextTag = 1 ∧ s.unconfirmed = 0 ∧ s.contents = []
  books : e.books = ∅
  unsent : e.unsent = none
  recorded : e.recorded = 0

/-- How many messages were sent. -/
def sent (e : Exchange) : Nat := e.recorded - e.unsent.toList.length

/-- What is recorded and not yet sent, as it is seen in flight. -/
def ahead (e : Exchange) (next : Tag) : List (Tag × Parcel) :=
  e.unsent.toList.map fun m => (next, parcel m)

/-- The session counts what it holds and what it lost when it was closed, and the books have that in
flight, and what is recorded but not yet sent. -/
structure Balanced (e : Exchange) (s : Session) (lost : List Settlement) : Prop where
  session : e.client.broker.session? e.client.session = some s
  listened : ∃ l, s.listener = some l
  confirming : s.confirming = true
  unbroken : s.closed = false → lost = []
  nextTag : s.nextTag = UInt64.ofNat (e.sent + 1)
  ahead : e.unsent.toList.length ≤ e.recorded
  count : s.unconfirmed = (s.contents ++ lost).length
  keyed : ∀ x ∈ s.pending.entries, x.1 = x.2.tag
  inFlight : seen parcel e.books = (s.contents ++ lost).map parcelEntry ++ e.ahead parcel s.nextTag
  bounded : ∀ x ∈ s.contents ++ lost, x.tag.toNat ≤ e.sent
  current : e.books.Current

/-- As long as fewer than `2 ^ 64` messages are recorded, the session and the books are balanced. -/
def Balances (e : Exchange) : Prop := e.recorded < 2 ^ 64 → ∃ s lost, Balanced parcel e s lost

variable {parcel} {e : Exchange} {s : Session} {lost : List Settlement}

theorem Fresh.balances (h : e.Fresh) : Balances parcel e := by
  obtain ⟨s, l, hs, hl, hon, hopen, hnext, hcount, hcontents⟩ := h.session
  have hpending := (List.append_eq_nil_iff.1 hcontents).1
  have hsent : e.sent = 0 := by rw [sent, h.recorded, Nat.zero_sub]
  refine fun _ => ⟨s, [], hs, ⟨l, hl⟩, hon, fun _ => rfl, ?_, ?_, ?_, ?_, ?_, ?_, ?_⟩
  · rw [hnext, hsent]
    rfl
  · rw [h.unsent]
    exact Nat.zero_le _
  · rw [hcount, hcontents]
    rfl
  · intro x hx
    have := List.map_eq_nil_iff.1 hpending
    exact absurd hx (this ▸ List.not_mem_nil)
  · rw [h.books, hcontents, Exchange.ahead, h.unsent]
    rfl
  · rw [hcontents]
    exact fun x hx => absurd hx List.not_mem_nil
  · rw [h.books]
    exact Books.current_empty

namespace Balanced

variable (h : Balanced parcel e s lost)

include h

theorem inOrder : s.InOrder := by
  have hseen := h.inFlight
  rw [List.map_append, List.append_assoc] at hseen
  exact inOrder_of_seen parcel _ h.keyed hseen

theorem nextTag_eq : e.client.broker.nextTag e.client.session = s.nextTag := by
  rw [Broker.nextTag, h.session]
  rfl

/-- The tags in flight are those of what the session holds or lost, and the announced one. -/
theorem tags : e.books.inFlight.tags
    = (s.contents ++ lost).map Settlement.tag ++ e.unsent.toList.map fun _ => s.nextTag := by
  have hfst : (seen parcel e.books).map Prod.fst = e.books.inFlight.tags := List.map_map ..
  rw [← hfst, h.inFlight, List.map_append, List.map_map, Exchange.ahead, List.map_map]
  rfl

theorem ascending : (s.contents ++ lost).Pairwise fun x y => x.tag < y.tag := by
  have hsorted := ascending_seen parcel e.books
  rw [h.inFlight, List.pairwise_append, List.pairwise_map] at hsorted
  exact hsorted.1

theorem recorded_eq {m : Message} (hsome : e.unsent = some m) : e.recorded = e.sent + 1 := by
  have := h.ahead
  simp only [Exchange.sent, hsome, Option.toList_some, List.length_singleton] at this ⊢
  omega

/-- The session may stay as it is while the broker changes. -/
theorem congr {b : Broker}
    (hb : b.session? e.client.session = e.client.broker.session? e.client.session) :
    Balanced parcel (e.hear b []) s lost :=
  { h with session := hb.trans h.session }

/-- What a pass can settle the session has counted. -/
theorem settled_le (k : Nat) :
    ((s.accept k).pending.values.filter Settlement.settles).length ≤ s.unconfirmed := by
  rw [h.count, (contents_split h.inOrder k).1, List.append_assoc, List.length_append]
  exact Nat.le_add_right_of_le (List.length_filter_le ..)

/-- A pass takes what it reports off the count and out of flight. -/
theorem pass_own (k : Nat) :
    Balanced parcel (e.hear (e.client.broker.passFirst k e.client.session).1
      (e.client.broker.passFirst k e.client.session).2) (s.passed k) lost := by
  obtain ⟨l, hl⟩ := h.listened
  obtain ⟨hcontents, hpassed⟩ := contents_split h.inOrder k
  have hseen := h.inFlight
  rw [hcontents, List.append_assoc, List.map_append, List.append_assoc] at hseen
  obtain ⟨-, hleft⟩ := handleAll_reports s.reporting hseen
  rw [passFirst_exact h.session, hl]
  unfold hear
  rw [confirmsOf_heardBy]
  refine ⟨?_, h.listened, h.confirming, h.unbroken, h.nextTag, h.ahead, ?_,
    (h.inOrder.passed k).keyed, ?_, ?_, Books.current_handleAll _ h.current⟩
  · rw [session?_change, if_pos rfl, h.session]
    rfl
  · -- the count was that of all it holds, so taking off what was settled is a true subtraction
    change s.unconfirmed - _ = _
    have hsplit := List.length_eq_length_filter_add (l := (s.accept k).pending.values)
      Settlement.settles
    rw [h.count, hcontents, hpassed]
    simp only [List.length_append]
    omega
  · change seen parcel (e.books.handleAll (s.told k)) = _
    rw [hpassed, List.append_assoc, List.map_append, List.append_assoc]
    exact hleft
  · intro x hx
    refine h.bounded x ?_
    rcases List.mem_append.1 hx with hx | hx
    · exact List.mem_append_left _ (contents_passed hx)
    · exact List.mem_append_right _ hx

/-- Nothing but the announced tag is in flight under it or above it. -/
theorem lt_nextTag (hfew : e.sent + 1 < 2 ^ 64) {x : Settlement} (hx : x ∈ s.contents ++ lost) :
    x.tag < s.nextTag := by
  have := h.bounded x hx
  rw [UInt64.lt_iff_toNat_lt, h.nextTag, UInt64.toNat_ofNat_of_lt' hfew]
  omega

theorem shut : Balanced parcel (e.hear (e.client.broker.shut e.client.session) []) s.shut
    (s.queue ++ lost) := by
  have hcontents : s.shut.contents ++ (s.queue ++ lost) = s.contents ++ lost := by
    unfold Session.contents Session.shut
    rw [List.append_nil, List.append_assoc]
  refine ⟨?_, h.listened, h.confirming, fun hopen => Bool.noConfusion hopen, h.nextTag, h.ahead, ?_,
    h.keyed, ?_, ?_, h.current⟩
  · change (e.client.broker.shut e.client.session).session? e.client.session = _
    rw [session?_shut, if_pos rfl, h.session, Option.map_some]
  · rw [hcontents]
    exact h.count
  · rw [hcontents]
    exact h.inFlight
  · rw [hcontents]
    exact h.bounded

/-- A message recorded under the announced tag is in flight there. -/
theorem record (hnone : e.unsent = none) (hfew : e.recorded + 1 < 2 ^ 64) (m : Message) :
    ∃ books, e.books.add? s.nextTag m = some books
      ∧ Balanced parcel { e with books, unsent := some m, recorded := e.recorded + 1 } s lost := by
  have hsent : e.sent = e.recorded := by rw [sent, hnone]; rfl
  have hahead : e.ahead parcel s.nextTag = [] := by rw [Exchange.ahead, hnone]; rfl
  have hlt : ∀ x ∈ e.books.unanswered, x.1 < s.nextTag := by
    intro x hx
    have hmem : (x.1, parcel x.2) ∈ seen parcel e.books := List.mem_map_of_mem hx
    rw [h.inFlight, hahead, List.append_nil] at hmem
    obtain ⟨y, hy, heq⟩ := List.mem_map.1 hmem
    have htag : y.tag = x.1 := congrArg Prod.fst heq
    exact htag ▸ h.lt_nextTag (hsent ▸ hfew) hy
  obtain ⟨books, hadd, hlast⟩ := Books.add?_last hlt m
  obtain ⟨-, -, -, -, -, hcurrent⟩ := Books.add?_eq_some hadd
  refine ⟨books, hadd, h.session, h.listened, h.confirming, h.unbroken, ?_,
    Nat.le_add_left _ _, h.count, h.keyed, ?_, ?_, hcurrent⟩
  · rw [h.nextTag, hsent]
    rfl
  · have hseen := h.inFlight
    rw [hahead, List.append_nil] at hseen
    unfold seen at hseen ⊢
    rw [hlast, List.map_append, hseen]
    rfl
  · exact fun x hx => hsent ▸ h.bounded x hx

/-- What is handed to the session stays in flight. -/
theorem handed {m : Message} {d : Delivery} {b : Broker} (hsome : e.unsent = some m)
    (hfew : e.recorded < 2 ^ 64) (hopen : s.closed = false)
    (hsession : b.session? e.client.session = some (s.sent d))
    (hentry : parcelEntry ⟨s.script d, d⟩ = (s.nextTag, parcel m)) :
    Balanced parcel { e.hear b [] with unsent := none } (s.sent d) lost := by
  have hsent := h.recorded_eq hsome
  have hone : e.recorded - 0 = e.sent + 1 := hsent
  have hahead : e.ahead parcel s.nextTag = [(s.nextTag, parcel m)] := by
    rw [Exchange.ahead, hsome]
    rfl
  obtain rfl := h.unbroken hopen
  have hcontents : (s.sent d).contents ++ [] = s.contents ++ [⟨s.script d, d⟩] := by
    unfold Session.contents Session.sent
    rw [List.append_nil, List.append_assoc]
  refine ⟨hsession, h.listened, h.confirming, fun _ => rfl, ?_, Nat.zero_le _, ?_, h.keyed, ?_, ?_,
    h.current⟩
  · change s.nextTag + 1 = UInt64.ofNat (e.recorded - 0 + 1)
    rw [h.nextTag, hone, UInt64.ofNat_add (e.sent + 1)]
    rfl
  · change s.unconfirmed + 1 = _
    rw [h.count, hcontents, List.append_nil, List.length_append, List.length_singleton]
  · change seen parcel e.books = _ ++ []
    rw [h.inFlight, hcontents, hahead, List.append_nil, List.append_nil, List.map_append,
      List.map_singleton, hentry]
  · intro x hx
    change x.tag.toNat ≤ e.recorded - 0
    rw [hcontents] at hx
    rw [hone]
    rcases List.mem_append.1 hx with hx | hx
    · exact Nat.le_succ_of_le (h.bounded x (List.mem_append_left _ hx))
    · have htag : x.tag = s.nextTag := by
        rw [List.mem_singleton.1 hx]
        exact congrArg Prod.fst hentry
      rw [htag, h.nextTag, UInt64.toNat_ofNat_of_lt' (hsent ▸ hfew)]

/-- Sending what is recorded hands it to the session, or fails with no effect. -/
theorem send {m : Message} (hsome : e.unsent = some m) (hfew : e.recorded < 2 ^ 64) :
    match e.answer (transmission (parcel m)) with
    | .ok tag => tag = s.nextTag
      ∧ ∃ s', Balanced parcel { e.after (transmission (parcel m)) with unsent := none } s' lost
    | .error _ => Balanced parcel (e.after (transmission (parcel m))) s lost := by
  unfold answer after transmission
  rcases transmit_cases e.client.broker e.client.session (parcel m).destination
    (parcel m).properties (parcel m).body with
    ⟨fault, transmits, heq⟩ | ⟨s', transmits, hs', hopen, ⟨-, ready, heq⟩ | ⟨hoff, -⟩⟩
  · rw [heq]
    exact h.congr (session?_congr rfl _)
  · obtain rfl := Option.some.inj (h.session.symm.trans hs')
    have hsession := session?_updated
      (congrArg (fun r => r.state.sessions) heq) e.client.session
    rw [if_pos rfl, hs', Option.map_some] at hsession
    rw [heq] at hsession ⊢
    exact ⟨rfl, _, h.handed hsome hfew hopen hsession rfl⟩
  · obtain rfl := Option.some.inj (h.session.symm.trans hs')
    exact absurd (h.confirming.symm.trans hoff) Bool.noConfusion

theorem declare (destination : String) :
    Balanced parcel (e.after fun b n => b.declare n destination) s lost := by
  unfold after Broker.declare
  dsimp only
  split
  · exact h.congr rfl
  · exact h.congr (session?_congr rfl _)

theorem close : ∃ s' lost', Balanced parcel (e.after Broker.close) s' lost' := by
  unfold after Broker.close
  dsimp only
  split
  · exact ⟨s, lost, h.congr rfl⟩
  · exact ⟨_, _, h.shut⟩

end Balanced

/-- No interlude changes that the session and the books are balanced. -/
theorem Balances.interlude {b b' : Broker} {heard : List Heard} (hidle : Interlude b heard b') :
    ∀ {e : Exchange}, e.client.broker = b → Balances parcel e →
      Balances parcel (e.hear b' heard) := by
  induction hidle with
  | nothing b =>
    rintro e rfl h
    exact h
  | clock waits now ready due _ ih =>
    rintro e rfl h
    refine ih (e := e.hear { e.client.broker with waits, now, ready, due } []) rfl fun hfew => ?_
    obtain ⟨s, lost, h⟩ := h hfew
    exact ⟨s, lost, h.congr (session?_congr rfl _)⟩
  | pass k m _ ih =>
    rintro e rfl h
    rw [← hear_hear]
    refine ih (e := e.hear _ _) rfl fun hfew => ?_
    obtain ⟨s, lost, h⟩ := h hfew
    by_cases hm : m = e.client.session
    · subst hm
      exact ⟨_, lost, h.pass_own k⟩
    · obtain ⟨hsession, hheard⟩ := passFirst_other e.client.broker hm k
      refine ⟨s, lost, ?_⟩
      unfold hear
      rw [hheard]
      exact h.congr hsession

theorem Balances.step (h : Balances parcel e) (a : Act) : Balances parcel (e.step parcel a).1 := by
  cases a with
  | record m =>
    unfold Exchange.step
    dsimp only
    split
    next books hnone hadd =>
      intro hfew
      obtain ⟨s, lost, h⟩ := h (Nat.lt_of_succ_lt hfew)
      obtain ⟨books', hadd', h'⟩ := h.record hnone hfew m
      rw [h.nextTag_eq] at hadd
      obtain rfl := Option.some.inj (hadd.symm.trans hadd')
      exact ⟨s, lost, h'⟩
    next => exact h
  | send =>
    unfold Exchange.step
    dsimp only
    split
    next => exact h
    next m hsome =>
      intro hfew
      obtain ⟨s, lost, h⟩ := h hfew
      have hsend := h.send hsome hfew
      cases hanswer : e.answer (transmission (parcel m)) with
      | ok tag =>
        rw [hanswer] at hsend
        exact ⟨_, lost, hsend.2.choose_spec⟩
      | error fault =>
        rw [hanswer] at hsend
        exact ⟨s, lost, hsend⟩
  | declare destination =>
    intro hfew
    obtain ⟨s, lost, h⟩ := h hfew
    exact ⟨s, lost, h.declare destination⟩
  | await timeout => exact h.interlude (interlude_awaitConfirms _ _ timeout) rfl
  | sleep time => exact h.interlude (interlude_sleep _ time) rfl
  | close =>
    intro hfew
    obtain ⟨s, lost, h⟩ := h hfew
    exact h.close
  | pass k m =>
    have hpass := Interlude.pass k m (.nothing (e.client.broker.passFirst k m).1)
    rw [List.append_nil] at hpass
    exact h.interlude hpass rfl
  | clock waits now ready due =>
    exact h.interlude (.clock waits now ready due (.nothing _)) rfl

theorem Balances.run : ∀ (acts : List Act) {e : Exchange}, Balances parcel e →
    Balances parcel (e.run parcel acts).1
  | [], _, h => h
  | a :: acts, _, h => Balances.run acts (h.step a)

end Exchange

end ConfirmedDelivery.Broker
