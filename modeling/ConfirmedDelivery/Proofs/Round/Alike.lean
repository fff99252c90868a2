import ConfirmedDelivery.Proofs.Round.Plan

/-!
# Links that cannot be told apart

Two links are alike if in related states they give the same answers and hand over the same confirms,
and go on to related states. A round cannot tell them apart: whatever it does on one it does on the
other, with the same result (`alike_conduct`). What they tell the journal may differ.

It is enough that they do so for the calls that a round really makes, and how their states are related
may depend on how far the round has come (`Likeness`, `Link.AlikeIn`): then what happens while somebody
waits need only lead to the same books (`alikeIn_conduct`).
-/

namespace ConfirmedDelivery

variable {σ τ α β : Type} {R : σ → τ → Prop}

/-- Replies with the same answer and the same confirms that lead to related states. -/
structure Reply.Alike (R : σ → τ → Prop) (x : Reply Confirm σ α) (y : Reply Confirm τ α) :
    Prop where
  answer : x.answer = y.answer
  events : x.events = y.events
  state : R x.state y.state

/-- Lulls with the same stirs that go through related states. -/
def Lull.Alike (R : σ → τ → Prop) : Lull Confirm σ → Lull Confirm τ → Prop
  | .timeUp events s, .timeUp events' t => events = events' ∧ R s t
  | .stir events s next, .stir events' t next' => events = events' ∧ R s t ∧ Alike R next next'
  | .timeUp _ _, .stir _ _ _ => False
  | .stir _ _ _, .timeUp _ _ => False

/-- Links that answer alike in related states. -/
structure Link.Alike (R : σ → τ → Prop) (l : Link σ) (k : Link τ) : Prop where
  openSession : ∀ {s t}, R s t → (l.openSession s).Alike R (k.openSession t)
  listen : ∀ {s t}, R s t → R (l.listen s) (k.listen t)
  enableConfirms : ∀ {s t}, R s t → (l.enableConfirms s).Alike R (k.enableConfirms t)
  nextTag : ∀ {s t}, R s t → l.nextTag s = k.nextTag t
  declare : ∀ {s t} (destination : String), R s t →
    (l.declare destination s).Alike R (k.declare destination t)
  transmit : ∀ {s t} (destination : String) (properties : Properties) (body : ByteArray), R s t →
    (l.transmit destination properties body s).Alike R (k.transmit destination properties body t)
  awaitConfirms : ∀ {s t} (timeout : Span), R s t →
    (l.awaitConfirms timeout s).Alike R (k.awaitConfirms timeout t)
  lull : ∀ {s t} (timeout : Span), R s t → (l.lull timeout s).Alike R (k.lull timeout t)
  close : ∀ {s t}, R s t → (l.close s).Alike R (k.close t)
  clock : ∀ {s t}, R s t → l.clock s = k.clock t

/-- Rounds that differ in their journals only, and in the states of their links. -/
structure Round.Alike (R : σ → τ → Prop) (r : Round σ) (r' : Round τ) : Prop where
  link : R r.link r'.link
  books : r.books = r'.books
  declared : r.declared = r'.declared
  sent : r.sent = r'.sent

/-- How the states of two links are related at each point of a round. -/
structure Likeness (σ τ : Type) where
  /-- Between two rounds. -/
  between : σ → τ → Prop
  /-- With a session just opened. -/
  opened : σ → τ → Prop
  /-- While messages are sent on it. -/
  sending : σ → τ → Prop
  /-- When one was just sent. -/
  sent : σ → τ → Prop
  /-- When a wait for confirms is over. -/
  settled : σ → τ → Prop

namespace Likeness

variable (A : Likeness σ τ)

/-- The same relation all the time. -/
def always (R : σ → τ → Prop) : Likeness σ τ := ⟨R, R, R, R, R⟩

/-- It makes no difference whether messages were sent, nor whether one has waited for them. -/
def Flat : Prop := ∀ s t, A.sending s t → A.sent s t ∧ A.settled s t

/-- As long as there is a session. -/
def within (s : σ) (t : τ) : Prop := A.opened s t ∨ A.sending s t

/-- When a batch is done with; without waiting if it is streaming. -/
def done (settings : Settings) : σ → τ → Prop :=
  if settings.pacing ≠ .streaming then A.settled else A.sending

end Likeness

/-- Replies with the same answer that lead to related states, with confirms that do the same to
books. -/
structure Reply.AlikeIn (ok fail : σ → τ → Prop) (x : Reply Confirm σ α) (y : Reply Confirm τ α) :
    Prop where
  answer : x.answer = y.answer
  books : ∀ b : Books Message, b.handleAll x.events = b.handleAll y.events
  came : ∀ a, x.answer = .ok a → ok x.state y.state
  failed : ∀ fault, x.answer = .error fault → fail x.state y.state

/-- Links that answer alike whatever a round does with these settings. -/
structure Link.AlikeIn (A : Likeness σ τ) (settings : Settings) (l : Link σ) (k : Link τ) :
    Prop where
  sent : ∀ {s t}, A.sent s t → A.sending s t
  settled : ∀ {s t}, A.settled s t → A.sending s t
  openSession : ∀ {s t}, A.between s t →
    (l.openSession s).AlikeIn A.opened A.between (k.openSession t)
  listen : ∀ {s t}, A.opened s t → A.opened (l.listen s) (k.listen t)
  enableConfirms : ∀ {s t}, A.opened s t →
    (l.enableConfirms s).AlikeIn A.sending A.within (k.enableConfirms t)
  nextTag : ∀ {s t}, A.sending s t → l.nextTag s = k.nextTag t
  declare : ∀ {s t} (destination : String), A.sending s t →
    (l.declare destination s).AlikeIn A.sending A.within (k.declare destination t)
  transmit : ∀ {s t} (destination : String) (properties : Properties) (body : ByteArray),
    A.sending s t → (l.transmit destination properties body s).AlikeIn A.sent A.within
      (k.transmit destination properties body t)
  awaitConfirms : ∀ {s t}, settings.pacing ≠ .streaming → A.sent s t →
    (l.awaitConfirms settings.batchConfirmTimeout s).AlikeIn A.settled A.within
      (k.awaitConfirms settings.batchConfirmTimeout t)
  lull : ∀ {r : Round σ} {r' : Round τ}, Round.Alike (A.done settings) r r' → r.drained = false →
    ((l.lull settings.timeout r.link).watch Round.absorb Round.drained r).1
        = ((k.lull settings.timeout r'.link).watch Round.absorb Round.drained r').1
      ∧ Round.Alike A.within ((l.lull settings.timeout r.link).watch Round.absorb Round.drained r).2
          ((k.lull settings.timeout r'.link).watch Round.absorb Round.drained r').2
  close : ∀ {s t}, A.within s t → (l.close s).AlikeIn A.between A.between (k.close t)
  clock : ∀ {s t}, A.between s t → l.clock s = k.clock t

theorem Round.Alike.imp {S : σ → τ → Prop} {r : Round σ} {r' : Round τ} (h : Round.Alike R r r')
    (himp : R r.link r'.link → S r.link r'.link) : Round.Alike S r r' :=
  ⟨himp h.link, h.books, h.declared, h.sent⟩

theorem Round.alike_take_in {S : σ → τ → Prop} {r : Round σ} {r' : Round τ}
    {events events' : List Confirm} {s : σ} {t : τ}
    (hevents : ∀ b : Books Message, b.handleAll events = b.handleAll events') (hstate : S s t)
    (h : Round.Alike R r r') : Round.Alike S (r.absorb events s) (r'.absorb events' t) where
  link := by simpa using hstate
  books := by simp [h.books, hevents]
  declared := by simpa using h.declared
  sent := by simpa using h.sent

namespace RoundM

/-- Two steps come to the same result, and to rounds that are alike as `ok` or `fail` says. -/
def AlikeAt (ok fail : σ → τ → Prop) (m : RoundM σ α) (m' : RoundM τ α) (r : Round σ)
    (r' : Round τ) : Prop :=
  match (ExceptT.run m).run r, (ExceptT.run m').run r' with
  | (.ok a, s), (.ok a', s') => a = a' ∧ Round.Alike ok s s'
  | (.error e, s), (.error e', s') => e = e' ∧ Round.Alike fail s s'
  | (.ok _, _), (.error _, _) => False
  | (.error _, _), (.ok _, _) => False

variable {ok ok' fail : σ → τ → Prop} {r : Round σ} {r' : Round τ}

theorem alike_pure (h : Round.Alike ok r r') (a : α) : AlikeAt ok fail (pure a) (pure a) r r' :=
  ⟨rfl, h⟩

theorem alike_throw (h : Round.Alike fail r r') (e : Failure) :
    AlikeAt ok fail (throw e : RoundM σ α) (throw e) r r' := ⟨rfl, h⟩

theorem alike_note (h : Round.Alike ok r r') (e e' : Event) :
    AlikeAt ok fail (note e) (note e') r r' :=
  ⟨rfl, h.link, h.books, h.declared, h.sent⟩

theorem alike_bind {m : RoundM σ β} {m' : RoundM τ β} {f : β → RoundM σ α} {f' : β → RoundM τ α}
    (hm : AlikeAt ok' fail m m' r r')
    (hf : ∀ b {r r'}, Round.Alike ok' r r' → AlikeAt ok fail (f b) (f' b) r r') :
    AlikeAt ok fail (m >>= f) (m' >>= f') r r' := by
  unfold AlikeAt at hm ⊢
  rw [ExceptT.run_bind, ExceptT.run_bind, StateT.run_bind, StateT.run_bind]
  rcases hrun : (ExceptT.run m).run r with ⟨e | b, s⟩ <;>
    rcases hrun' : (ExceptT.run m').run r' with ⟨e' | b', s'⟩ <;>
      rw [hrun, hrun'] at hm
  · exact hm
  · exact hm.elim
  · exact hm.elim
  · obtain ⟨rfl, hround⟩ := hm
    exact hf b hround

theorem alike_get_bind {f : Round σ → RoundM σ α} {f' : Round τ → RoundM τ α}
    (h : AlikeAt ok fail (f r) (f' r') r r') : AlikeAt ok fail (get >>= f) (get >>= f') r r' := h

theorem alike_set_bind {s : Round σ} {s' : Round τ} {f : PUnit → RoundM σ α}
    {f' : PUnit → RoundM τ α} (h : AlikeAt ok fail (f ⟨⟩) (f' ⟨⟩) s s') :
    AlikeAt ok fail (set s >>= f) (set s' >>= f') r r' := h

theorem alike_call (h : Round.Alike R r r') {f : σ → Reply Confirm σ α}
    {f' : τ → Reply Confirm τ α} (hf : (f r.link).AlikeIn ok fail (f' r'.link)) :
    AlikeAt ok fail (call f) (call f') r r' := by
  have hround {S : σ → τ → Prop} (hstate : S (f r.link).state (f' r'.link).state) :
      Round.Alike S
        (Round.absorb { r with journal := r.journal ++ (f r.link).notes } (f r.link).events
          (f r.link).state)
        (Round.absorb { r' with journal := r'.journal ++ (f' r'.link).notes } (f' r'.link).events
          (f' r'.link).state) :=
    Round.alike_take_in (R := R) hf.books hstate ⟨h.link, h.books, h.declared, h.sent⟩
  unfold AlikeAt
  rw [call_run, call_run, ← hf.answer]
  rcases hanswer : (f r.link).answer with fault | a
  · exact ⟨rfl, hround (hf.failed fault hanswer)⟩
  · exact ⟨rfl, hround (hf.came a hanswer)⟩

end RoundM

namespace Round

open RoundM

variable {A : Likeness σ τ} {l : Link σ} {k : Link τ} {r : Round σ} {r' : Round τ}
  {settings : Settings} (number : Nat)

theorem alike_ensureDeclared (hlink : l.AlikeIn A settings k) (h : Round.Alike A.sending r r')
    (d : String) : AlikeAt A.sending A.within (ensureDeclared l d) (ensureDeclared k d) r r' := by
  unfold ensureDeclared
  refine alike_get_bind ?_
  rw [h.declared]
  split_ifs
  · exact alike_pure h ()
  · refine alike_bind (alike_call h (hlink.declare d h.link)) fun _ _ _ h => ?_
    exact ⟨rfl, h.link, h.books, congrArg (d :: ·) h.declared, h.sent⟩

theorem alike_recordNext (hlink : l.AlikeIn A settings k) (h : Round.Alike A.sending r r')
    (m : Message) : AlikeAt A.sending A.within (recordNext l m) (recordNext k m) r r' := by
  unfold recordNext
  refine alike_get_bind ?_
  rw [h.books, hlink.nextTag h.link]
  dsimp only
  cases r'.books.add? (k.nextTag r'.link) m with
  | none => exact alike_throw (h.imp .inr) _
  | some b => exact alike_set_bind ⟨rfl, h.link, rfl, h.declared, h.sent⟩

theorem alike_sendOne (hlink : l.AlikeIn A settings k) (h : Round.Alike A.sending r r')
    (m : Message) : AlikeAt A.sent A.within (sendOne l settings m) (sendOne k settings m) r r' := by
  unfold sendOne
  refine alike_bind (alike_ensureDeclared hlink h _) fun _ _ _ h => ?_
  refine alike_bind (alike_recordNext hlink h m) fun expected _ _ h => ?_
  refine alike_bind (alike_call h (hlink.transmit _ _ _ h.link)) fun assigned _ _ h => ?_
  split_ifs
  · exact ⟨rfl, .inr (hlink.sent h.link), h.books, h.declared, h.sent⟩
  · exact ⟨rfl, h.link, h.books, h.declared, congrArg (· + 1) h.sent⟩

theorem alike_sendMore (hlink : l.AlikeIn A settings k) :
    ∀ (ms : List Message) {r : Round σ} {r' : Round τ}, Round.Alike A.sent r r' →
      AlikeAt A.sent A.within (sendAll l settings ms) (sendAll k settings ms) r r'
  | [], _, _, h => alike_pure h ()
  | m :: rest, _, _, h => alike_bind (alike_sendOne hlink (h.imp hlink.sent) m) fun _ _ _ h =>
    alike_sendMore hlink rest h

/-- When all are sent, one was just sent, unless there were none. -/
theorem alike_sendAll (hlink : l.AlikeIn A settings k) {ms : List Message} (hsome : A.Flat ∨ ms ≠ [])
    (h : Round.Alike A.sending r r') :
    AlikeAt A.sent A.within (sendAll l settings ms) (sendAll k settings ms) r r' := by
  cases ms with
  | nil =>
    have hflat := hsome.resolve_right fun hne => hne rfl
    exact alike_pure (h.imp fun h => (hflat _ _ h).1) ()
  | cons m rest =>
    exact alike_bind (alike_sendOne hlink h m) fun _ _ _ h => alike_sendMore hlink rest h

theorem alike_awaitBatch (hlink : l.AlikeIn A settings k) (hpacing : settings.pacing ≠ .streaming)
    (h : Round.Alike A.sent r r') (batch : Nat) :
    AlikeAt A.settled A.within (awaitBatch l settings number batch)
      (awaitBatch k settings number batch) r r' := by
  unfold awaitBatch
  refine alike_bind (alike_call h (hlink.awaitConfirms hpacing h.link)) fun inTime _ _ h => ?_
  split_ifs
  · exact alike_pure h ()
  · exact ⟨rfl, .inr (hlink.settled h.link), h.books, h.declared, h.sent⟩

theorem sending_done (hlink : l.AlikeIn A settings k) {s : σ} {t : τ} (h : A.done settings s t) :
    A.sending s t := by
  unfold Likeness.done at h
  split_ifs at h
  · exact hlink.settled h
  · exact h

theorem done_settled (hlink : l.AlikeIn A settings k) {s : σ} {t : τ} (h : A.settled s t) :
    A.done settings s t := by
  unfold Likeness.done
  split_ifs
  · exact h
  · exact hlink.settled h

theorem alike_sendBatches (hlink : l.AlikeIn A settings k) :
    ∀ {batches : List (List Message)} (batch : Nat) {r : Round σ} {r' : Round τ},
      (A.Flat ∨ ∀ ms ∈ batches, ms ≠ []) → Round.Alike A.sending r r' →
      (batches = [] → Round.Alike (A.done settings) r r') →
      AlikeAt (A.done settings) A.within (sendBatches l settings number batch batches)
        (sendBatches k settings number batch batches) r r'
  | [], _, _, _, _, _, h => alike_pure (h rfl) ()
  | ms :: rest, batch, _, _, hsome, h, _ => by
    have hfirst : A.Flat ∨ ms ≠ [] := hsome.imp_right fun h => h ms List.mem_cons_self
    have hrest : A.Flat ∨ ∀ ms ∈ rest, ms ≠ [] :=
      hsome.imp_right fun h ms hms => h ms (List.mem_cons_of_mem _ hms)
    have hnext {r : Round σ} {r' : Round τ} (h : Round.Alike (A.done settings) r r') :=
      alike_sendBatches hlink (batch + 1) hrest (h.imp (sending_done hlink)) fun _ => h
    unfold sendBatches
    refine alike_bind (alike_sendAll hlink hfirst h) fun _ _ _ h => ?_
    split_ifs with hpacing
    · refine alike_bind (alike_awaitBatch number hlink hpacing h batch) fun _ _ _ h => ?_
      exact hnext (h.imp (done_settled hlink))
    · refine hnext (h.imp fun h => ?_)
      unfold Likeness.done
      rw [if_neg hpacing]
      exact hlink.sent h

theorem alike_watch : ∀ {x : Lull Confirm σ} {y : Lull Confirm τ} {r : Round σ} {r' : Round τ},
    x.Alike R y → Round.Alike R r r' →
    (x.watch absorb drained r).1 = (y.watch absorb drained r').1
      ∧ Round.Alike R (x.watch absorb drained r).2 (y.watch absorb drained r').2
  | .timeUp events s, .timeUp events' t, r, r', ⟨hevents, hstate⟩, h =>
    ⟨rfl, alike_take_in (fun b => congrArg b.handleAll hevents) hstate h⟩
  | .stir events s next, .stir events' t next', r, r', ⟨hevents, hstate, hnext⟩, h => by
    have hab := alike_take_in (fun b => congrArg b.handleAll hevents) hstate h
    have hdrained : drained (r.absorb events s) = drained (r'.absorb events' t) := by
      unfold drained
      rw [hab.books]
    unfold Lull.watch
    dsimp only
    rw [hdrained]
    split_ifs
    · exact ⟨rfl, hab⟩
    · exact alike_watch hnext hab

theorem alike_drain (hlink : l.AlikeIn A settings k) (h : Round.Alike (A.done settings) r r') :
    AlikeAt A.within A.within (drain l settings number) (drain k settings number) r r' := by
  unfold drain
  refine alike_get_bind ?_
  have hdrained : r.drained = r'.drained := by
    unfold drained
    rw [h.books]
  rw [← hdrained]
  split_ifs with hempty
  · exact alike_pure (h.imp fun h => .inr (sending_done hlink h)) ()
  · obtain ⟨hintime, h⟩ := hlink.lull h (Bool.eq_false_iff.2 hempty)
    refine alike_set_bind ?_
    dsimp only
    rw [hintime]
    split_ifs
    · exact alike_pure h ()
    · refine ⟨?_, h.link, h.books, h.declared, h.sent⟩
      rw [h.books]

theorem alike_drive (hlink : l.AlikeIn A settings k) (h : Round.Alike A.opened r r')
    {messages : List Message} (hsome : A.Flat ∨ 0 < settings.chunkSize ∧ messages ≠ []) :
    AlikeAt A.within A.within (drive l settings number messages)
      (drive k settings number messages) r r' := by
  unfold drive
  have hlisten : Round.Alike A.opened { r with link := l.listen r.link }
      { r' with link := k.listen r'.link } :=
    ⟨hlink.listen h.link, h.books, h.declared, h.sent⟩
  have hmodify : AlikeAt A.opened A.within (modify fun r => { r with link := l.listen r.link })
      (modify fun r => { r with link := k.listen r.link }) r r' := ⟨rfl, hlisten⟩
  refine alike_bind hmodify fun _ _ _ h => ?_
  refine alike_bind (alike_call h (hlink.enableConfirms h.link)) fun _ _ _ h => ?_
  refine alike_get_bind (alike_bind (alike_note h _ _) fun _ _ _ h => ?_)
  refine alike_bind (alike_sendBatches number hlink 1
    (hsome.imp_right fun h => ne_nil_of_mem_chunks h.1) h fun hnone => h.imp fun h => ?_)
    fun _ _ _ h => alike_drain number hlink h
  have hflat := hsome.resolve_right fun ⟨hsize, hsome⟩ => chunks_ne_nil hsize hsome hnone
  exact done_settled hlink (hflat _ _ h).2

theorem alike_closeSession (hlink : l.AlikeIn A settings k) (h : Round.Alike A.within r r') :
    Round.Alike A.between ((closeSession l number).run r).2 ((closeSession k number).run r').2 := by
  obtain ⟨journal, hl⟩ := closeSession_run l number r
  obtain ⟨journal', hk⟩ := closeSession_run k number r'
  have hclose := hlink.close h.link
  have hstate : A.between (l.close r.link).state (k.close r'.link).state := by
    rcases hanswer : (l.close r.link).answer with fault | a
    · exact hclose.failed fault hanswer
    · exact hclose.came a hanswer
  rw [hl, hk]
  exact ⟨hstate, by rw [h.books, hclose.books], h.declared, h.sent⟩

theorem alike_abandon {r : Round σ} {r' : Round τ} (h : Round.Alike R r r') :
    Round.Alike R ((abandon number).run r).2 ((abandon number).run r').2 := by
  change Round.Alike R (if r.books.inFlight.size = 0 then r else _)
    (if r'.books.inFlight.size = 0 then r' else _)
  rw [h.books]
  split_ifs
  · exact h
  · exact ⟨h.link, rfl, h.declared, h.sent⟩

theorem alikeIn_conduct (hlink : l.AlikeIn A settings k) {j : Journaled σ} {j' : Journaled τ}
    (h : A.between j.state j'.state) {messages : List Message}
    (hsome : A.Flat ∨ 0 < settings.chunkSize ∧ messages ≠ []) :
    ((conduct l settings number messages).run (start j)).1
        = ((conduct k settings number messages).run (start j')).1
      ∧ Round.Alike A.between ((conduct l settings number messages).run (start j)).2
          ((conduct k settings number messages).run (start j')).2 := by
  have hopen := hlink.openSession h
  have hbegun {S : σ → τ → Prop}
      (hstate : S (l.openSession j.state).state (k.openSession j'.state).state) :
      Round.Alike S (begun l j) (begun k j') :=
    alike_take_in (R := A.between) hopen.books hstate ⟨h, rfl, rfl, rfl⟩
  unfold conduct
  rw [stateM_bind_run, stateM_bind_run, opening_run, opening_run, ← hopen.answer]
  rcases hanswer : (l.openSession j.state).answer with fault | u
  · exact ⟨rfl, hbegun (hopen.failed fault hanswer)⟩
  · have hdrive := alike_drive number hlink (hbegun (hopen.came u hanswer)) hsome
    simp only [Except.mapError, stateM_bind_run]
    unfold AlikeAt at hdrive
    rcases hrun : (ExceptT.run (drive l settings number messages)).run (begun l j)
      with ⟨e | _, s⟩ <;>
    rcases hrun' : (ExceptT.run (drive k settings number messages)).run (begun k j')
      with ⟨e' | _, s'⟩ <;>
      rw [hrun, hrun'] at hdrive
    · obtain ⟨rfl, hdrive⟩ := hdrive
      exact ⟨rfl, alike_abandon number (alike_closeSession number hlink hdrive)⟩
    · exact hdrive.elim
    · exact hdrive.elim
    · have hclosed := alike_closeSession number hlink hdrive.2
      refine ⟨congrArg Except.ok ?_, hclosed⟩
      rw [hclosed.books, hclosed.sent]

end Round

section Always

variable {l : Link σ} {k : Link τ}

theorem Reply.Alike.alikeIn {ok fail : σ → τ → Prop} {x : Reply Confirm σ α}
    {y : Reply Confirm τ α} (h : x.Alike R y) (hok : ∀ {s t}, R s t → ok s t)
    (hfail : ∀ {s t}, R s t → fail s t) : x.AlikeIn ok fail y where
  answer := h.answer
  books b := congrArg b.handleAll h.events
  came _ _ := hok h.state
  failed _ _ := hfail h.state

theorem Likeness.done_always (settings : Settings) : (Likeness.always R).done settings = R := by
  unfold Likeness.done
  exact ite_self _

/-- Links that are alike anyway are so in a round. -/
theorem Link.Alike.alikeIn (h : l.Alike R k) (settings : Settings) :
    l.AlikeIn (.always R) settings k where
  sent := id
  settled := id
  openSession hst := (h.openSession hst).alikeIn id id
  listen := h.listen
  enableConfirms hst := (h.enableConfirms hst).alikeIn id .inl
  nextTag := h.nextTag
  declare destination hst := (h.declare destination hst).alikeIn id .inl
  transmit destination properties body hst :=
    (h.transmit destination properties body hst).alikeIn id .inl
  awaitConfirms _ hst := (h.awaitConfirms _ hst).alikeIn id .inl
  lull hr _ := by
    rw [Likeness.done_always] at hr
    exact (Round.alike_watch (h.lull _ hr.link) hr).imp_right (·.imp .inl)
  close hst := (h.close (hst.elim id id)).alikeIn id id
  clock := h.clock

end Always

namespace Round

variable {l : Link σ} {k : Link τ} (settings : Settings) (number : Nat)

theorem alike_conduct_round (hlink : l.Alike R k) {j : Journaled σ} {j' : Journaled τ}
    (h : R j.state j'.state) (messages : List Message) :
    ((conduct l settings number messages).run (start j)).1
        = ((conduct k settings number messages).run (start j')).1
      ∧ Round.Alike R ((conduct l settings number messages).run (start j)).2
          ((conduct k settings number messages).run (start j')).2 :=
  alikeIn_conduct number (hlink.alikeIn settings) h (.inl fun _ _ h => ⟨h, h⟩)

theorem alike_conduct (hlink : l.Alike R k) {j : Journaled σ} {j' : Journaled τ}
    (h : R j.state j'.state) (messages : List Message) :
    ((conduct l settings number messages).run (start j)).1
        = ((conduct k settings number messages).run (start j')).1
      ∧ R ((conduct l settings number messages).run (start j)).2.link
          ((conduct k settings number messages).run (start j')).2.link :=
  (alike_conduct_round settings number hlink h messages).imp_right Round.Alike.link

end Round

end ConfirmedDelivery
