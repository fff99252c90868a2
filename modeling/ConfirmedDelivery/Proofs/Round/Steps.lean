import ConfirmedDelivery.Proofs.Books
import ConfirmedDelivery.Round

/-!
# Steps of a round

Where a step of a round leads is known from its parts: a step after another begins where that one
came through (`leads_bind`), and a call leads to what its reply does to the books (`leads_call`).
The journal plays no part in it.
-/

namespace ConfirmedDelivery

variable {σ α β : Type}

/-- What is sent of a message. -/
structure Parcel where
  destination : String
  properties : Properties
  body : ByteArray

/-- What is sent of a message under these settings. -/
def Settings.parcel (settings : Settings) (m : Message) : Parcel :=
  ⟨m.destination, m.properties settings.contentType settings.persistent, m.body⟩

/-- All that is told of a message, and of the settings it is sent under. -/
theorem Settings.parcel_tells (settings : Settings) (m : Message) :
    let q := settings.parcel m
    q.destination = Text.snakeCase m.kind ∧ q.body = m.body
      ∧ q.properties.messageId = m.id ∧ q.properties.kind = m.kind
      ∧ q.properties.contentType = settings.contentType
      ∧ q.properties.persistent = settings.persistent
      ∧ ∀ name, q.properties.headers.get? name = m.attributes.text? name :=
  ⟨rfl, rfl, rfl, rfl, rfl, rfl, Dict.get?_mapValues _ _⟩

/-- What a reply does to books that take in its confirms. -/
def Reply.Ends (reply : Reply Confirm σ α) (b : Books Message)
    (ok : α → σ → Books Message → Prop) (fail : LinkFault → σ → Books Message → Prop) : Prop :=
  match reply.answer with
  | .ok a => ok a reply.state (b.handleAll reply.events)
  | .error fault => fail fault reply.state (b.handleAll reply.events)

theorem Reply.Ends.imp {reply : Reply Confirm σ α} {b : Books Message}
    {ok ok' : α → σ → Books Message → Prop} {fail fail' : LinkFault → σ → Books Message → Prop}
    (h : reply.Ends b ok fail) (hok : ∀ a s b, ok a s b → ok' a s b)
    (hfail : ∀ fault s b, fail fault s b → fail' fault s b) : reply.Ends b ok' fail' := by
  unfold Reply.Ends at h ⊢
  split at h
  · exact hok _ _ _ h
  · exact hfail _ _ _ h

theorem Reply.Ends.and {reply : Reply Confirm σ α} {b : Books Message}
    {ok ok' : α → σ → Books Message → Prop} {fail fail' : LinkFault → σ → Books Message → Prop}
    (h : reply.Ends b ok fail) (h' : reply.Ends b ok' fail') :
    reply.Ends b (fun a s b => ok a s b ∧ ok' a s b)
      fun fault s b => fail fault s b ∧ fail' fault s b := by
  unfold Reply.Ends at h h' ⊢
  split at h <;> simp_all

/-- What holds after a reply whatever its answer is. -/
theorem Reply.ends_of {reply : Reply Confirm σ α} {b : Books Message}
    {ok : α → σ → Books Message → Prop} {fail : LinkFault → σ → Books Message → Prop}
    (hok : ∀ a, ok a reply.state (b.handleAll reply.events))
    (hfail : ∀ fault, fail fault reply.state (b.handleAll reply.events)) :
    reply.Ends b ok fail := by
  unfold Reply.Ends
  split
  · exact hok _
  · exact hfail _

/-- What holds of the state after a reply. -/
theorem Reply.Ends.and_state {reply : Reply Confirm σ α} {b : Books Message}
    {ok : α → σ → Books Message → Prop} {fail : LinkFault → σ → Books Message → Prop}
    (h : reply.Ends b ok fail) {Q : σ → Prop} (hQ : Q reply.state) :
    reply.Ends b (fun a s b => ok a s b ∧ Q s) fun fault s b => fail fault s b ∧ Q s := by
  have hstate : reply.Ends b (fun _ s _ => Q s) fun _ s _ => Q s :=
    Reply.ends_of (fun _ => hQ) fun _ => hQ
  exact h.and hstate

/-- What a lull does to books that take in its confirms until nothing is in flight. -/
def Lull.Keeps (during late : σ → Books Message → Prop) : Lull Confirm σ → Books Message → Prop
  | .timeUp events s, b => late s (b.handleAll events)
  | .stir events s next, b =>
    during s (b.handleAll events)
      ∧ ((b.handleAll events).inFlight.drained = false → next.Keeps during late (b.handleAll events))

theorem Lull.keeps_of {during late : σ → Books Message → Prop} (hduring : ∀ s b, during s b)
    (hlate : ∀ s b, late s b) : ∀ (lull : Lull Confirm σ) (b : Books Message), lull.Keeps during late b
  | .timeUp _ _, _ => hlate _ _
  | .stir _ _ next, _ => ⟨hduring _ _, fun _ => keeps_of hduring hlate next _⟩

theorem Lull.Keeps.imp {during late during' late' : σ → Books Message → Prop}
    (hduring : ∀ s b, during s b → during' s b) (hlate : ∀ s b, late s b → late' s b) :
    ∀ {lull : Lull Confirm σ} {b : Books Message}, lull.Keeps during late b →
      lull.Keeps during' late' b
  | .timeUp _ _, _, h => hlate _ _ h
  | .stir _ _ _, _, ⟨h, hnext⟩ =>
    ⟨hduring _ _ h, fun hdrained => (hnext hdrained).imp hduring hlate⟩

/-- It may be asked for at the end only, when nothing is in flight. -/
theorem Lull.Keeps.if_drained {during late : σ → Books Message → Prop} {lull : Lull Confirm σ}
    {b : Books Message} (h : lull.Keeps during late b) :
    lull.Keeps (fun s b => b.inFlight.drained = true → during s b) late b := by
  refine h.imp (fun s b hduring => ?_) fun _ _ hlate => hlate
  exact fun _ => hduring

theorem Lull.Keeps.and {during late during' late' : σ → Books Message → Prop} :
    ∀ {lull : Lull Confirm σ} {b : Books Message}, lull.Keeps during late b →
      lull.Keeps during' late' b →
      lull.Keeps (fun s b => during s b ∧ during' s b) (fun s b => late s b ∧ late' s b) b
  | .timeUp _ _, _, h, h' => ⟨h, h'⟩
  | .stir _ _ _, _, ⟨h, hnext⟩, ⟨h', hnext'⟩ =>
    ⟨⟨h, h'⟩, fun hdrained => (hnext hdrained).and (hnext' hdrained)⟩

namespace Round

variable {r : Round σ}

theorem eq_of_parts (r : Round σ) : r = ⟨r.link, r.journal, r.books, r.declared, r.sent⟩ := rfl

theorem foldl_take : ∀ (cs : List Confirm) (r : Round σ),
    (cs.foldl take r).link = r.link ∧ (cs.foldl take r).books = r.books.handleAll cs
      ∧ (cs.foldl take r).declared = r.declared ∧ (cs.foldl take r).sent = r.sent
  | [], _ => ⟨rfl, rfl, rfl, rfl⟩
  | c :: cs, r => foldl_take cs (r.take c)

section Absorb

variable (r : Round σ) (cs : List Confirm) (s : σ)

@[simp] theorem absorb_link : (r.absorb cs s).link = s := (foldl_take cs _).1
@[simp] theorem absorb_books : (r.absorb cs s).books = r.books.handleAll cs := (foldl_take cs _).2.1
@[simp] theorem absorb_declared : (r.absorb cs s).declared = r.declared := (foldl_take cs _).2.2.1
@[simp] theorem absorb_sent : (r.absorb cs s).sent = r.sent := (foldl_take cs _).2.2.2

end Absorb

end Round

namespace RoundM

/-- A step that begins in the state `r` comes through as `ok` says or fails as `fail` says. -/
def Leads (m : RoundM σ α) (r : Round σ) (ok : α → Round σ → Prop)
    (fail : Failure → Round σ → Prop) : Prop :=
  match (ExceptT.run m).run r with
  | (.ok a, r') => ok a r'
  | (.error e, r') => fail e r'

variable {r : Round σ} {ok ok' : α → Round σ → Prop} {fail fail' : Failure → Round σ → Prop}

theorem Leads.imp {m : RoundM σ α} (h : Leads m r ok fail) (hok : ∀ a r, ok a r → ok' a r)
    (hfail : ∀ e r, fail e r → fail' e r) : Leads m r ok' fail' := by
  unfold Leads at h ⊢
  split at h
  · exact hok _ _ h
  · exact hfail _ _ h

theorem leads_pure {a : α} : Leads (pure a) r ok fail ↔ ok a r := Iff.rfl

theorem leads_throw {e : Failure} : Leads (throw e : RoundM σ α) r ok fail ↔ fail e r := Iff.rfl

theorem leads_get {ok : Round σ → Round σ → Prop} : Leads get r ok fail ↔ ok r r := Iff.rfl

theorem leads_set {s : Round σ} {ok : PUnit → Round σ → Prop} :
    Leads (set s) r ok fail ↔ ok ⟨⟩ s := Iff.rfl

theorem leads_modify {f : Round σ → Round σ} {ok : PUnit → Round σ → Prop} :
    Leads (modify f) r ok fail ↔ ok ⟨⟩ (f r) := Iff.rfl

theorem leads_note {e : Event} {ok : PUnit → Round σ → Prop} :
    Leads (note e) r ok fail ↔ ok ⟨⟩ { r with journal := r.journal.push e } := Iff.rfl

theorem leads_bind {m : RoundM σ β} {f : β → RoundM σ α} :
    Leads (m >>= f) r ok fail ↔ Leads m r (fun b r => Leads (f b) r ok fail) fail := by
  unfold Leads
  rw [ExceptT.run_bind, StateT.run_bind]
  rcases (ExceptT.run m).run r with ⟨b | e, r'⟩ <;> rfl

/-- A call hands back the answer, and the round takes in the confirms that came with it. -/
theorem call_run (f : σ → Reply Confirm σ α) (r : Round σ) :
    (ExceptT.run (call f)).run r = ((f r.link).answer.mapError Failure.link,
      Round.absorb { r with journal := r.journal ++ (f r.link).notes } (f r.link).events
        (f r.link).state) := by
  unfold call
  change StateT.run (ExceptT.run (match (f r.link).answer with
    | .ok a => pure a
    | .error fault => throw (Failure.link fault))) _ = _
  cases (f r.link).answer <;> rfl

/-- One action after another: the second one begins where the first one ended. -/
theorem stateM_bind_run (m : StateM (Round σ) β) (f : β → StateM (Round σ) α) (r : Round σ) :
    (m >>= f).run r = (f (m.run r).1).run (m.run r).2 := rfl

theorem leads_ite {c : Prop} [Decidable c] {m m' : RoundM σ α} :
    Leads (if c then m else m') r ok fail
      ↔ (c → Leads m r ok fail) ∧ (¬ c → Leads m' r ok fail) := by
  split_ifs with h
  · exact ⟨fun hm => ⟨fun _ => hm, fun hc => absurd h hc⟩, fun hm => hm.1 h⟩
  · exact ⟨fun hm => ⟨fun hc => absurd hc h, fun _ => hm⟩, fun hm => hm.2 h⟩

/-- A call on the link leads to what its reply does to the books; the destinations declared and the
number of messages sent stay the same. -/
theorem leads_call {f : σ → Reply Confirm σ α}
    (h : (f r.link).Ends r.books
      (fun a s b => ∀ journal, ok a ⟨s, journal, b, r.declared, r.sent⟩)
      (fun fault s b => ∀ journal, fail (.link fault) ⟨s, journal, b, r.declared, r.sent⟩)) :
    Leads (call f) r ok fail := by
  unfold call
  simp only [leads_bind, leads_get, leads_set]
  unfold Reply.Ends at h
  rw [Round.eq_of_parts (Round.absorb ..)]
  simp only [Round.absorb_link, Round.absorb_books, Round.absorb_declared, Round.absorb_sent]
  cases hanswer : (f r.link).answer with
  | ok a =>
    rw [hanswer] at h
    exact h _
  | error fault =>
    rw [hanswer] at h
    exact h _

end RoundM

namespace Round

open RoundM

theorem closeSession_run (link : Link σ) (number : Nat) (r : Round σ) :
    ∃ journal, (closeSession link number).run r
      = ((), ⟨(link.close r.link).state, journal, r.books.handleAll (link.close r.link).events,
          r.declared, r.sent⟩) := by
  unfold closeSession
  rw [stateM_bind_run, call_run, eq_of_parts (Round.absorb ..)]
  simp only [absorb_link, absorb_books, absorb_declared, absorb_sent]
  cases (link.close r.link).answer with
  | ok _ => exact ⟨_, rfl⟩
  | error _ => exact ⟨_, rfl⟩

theorem abandon_run (number : Nat) (r : Round σ) :
    ((abandon number).run r).2.link = r.link ∧ ((abandon number).run r).2.books = r.books := by
  change (if r.books.inFlight.size = 0 then r else _).link = _
    ∧ (if r.books.inFlight.size = 0 then r else _).books = _
  split_ifs <;> exact ⟨rfl, rfl⟩

/-- The round once its session is open. -/
def begun (link : Link σ) (j : Journaled σ) : Round σ :=
  let opening := link.openSession j.state
  absorb { start j with journal := j.journal ++ opening.notes } opening.events opening.state

theorem opening_run (link : Link σ) (j : Journaled σ) :
    (ExceptT.run (call link.openSession)).run (start j)
      = ((link.openSession j.state).answer.mapError Failure.link, begun link j) := call_run ..

theorem begun_eq (link : Link σ) (j : Journaled σ) :
    ∃ journal, begun link j = ⟨(link.openSession j.state).state, journal, ∅, [], 0⟩ := by
  refine ⟨(begun link j).journal, ?_⟩
  rw [eq_of_parts (begun link j)]
  simp [begun, start, Books.handleAll_empty]

end Round

end ConfirmedDelivery
