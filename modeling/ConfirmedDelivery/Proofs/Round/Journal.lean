import ConfirmedDelivery.Proofs.Round.Steps

/-!
# What a round tells the journal

The journal of a round only grows. Until its session is closed the round tells nothing of messages
that it leaves unanswered, though the link may (`Link.Notes`). When it failed, it does so once and at
the very end: it tells how many are still in flight, unless there is none (`journal_conduct`).
-/

namespace ConfirmedDelivery

variable {σ α β : Type}

/-- An event that a link tells of when it is called. -/
inductive Link.Notes (link : Link σ) (e : Event) : Prop where
  | openSession (s : σ) : e ∈ (link.openSession s).notes → link.Notes e
  | enableConfirms (s : σ) : e ∈ (link.enableConfirms s).notes → link.Notes e
  | declare (destination : String) (s : σ) : e ∈ (link.declare destination s).notes → link.Notes e
  | transmit (destination : String) (properties : Properties) (body : ByteArray) (s : σ) :
    e ∈ (link.transmit destination properties body s).notes → link.Notes e
  | awaitConfirms (timeout : Span) (s : σ) :
    e ∈ (link.awaitConfirms timeout s).notes → link.Notes e
  | close (s : σ) : e ∈ (link.close s).notes → link.Notes e

/-- An event that has nothing to do with what a round leaves unanswered, or else is the link's. -/
def Link.Passing (link : Link σ) (e : Event) : Prop :=
  (∀ round count, e ≠ .abandoned round count) ∨ link.Notes e

namespace Round

/-- The journal went on, with passing events only. -/
def Tells (link : Link σ) (r r' : Round σ) : Prop :=
  ∃ told : List Event, r'.journal.toList = r.journal.toList ++ told ∧ ∀ e ∈ told, link.Passing e

variable {link : Link σ} {r r' r'' : Round σ}

theorem Tells.refl (h : r'.journal = r.journal) : Tells link r r' := ⟨[], by simp [h], by simp⟩

theorem Tells.trans (h : Tells link r r') (h' : Tells link r' r'') : Tells link r r'' := by
  obtain ⟨told, heq, htold⟩ := h
  obtain ⟨more, heq', hmore⟩ := h'
  exact ⟨told ++ more, by rw [heq', heq, List.append_assoc],
    List.forall_mem_append.2 ⟨htold, hmore⟩⟩

theorem tells_push {e : Event} (he : link.Passing e) :
    Tells link r { r with journal := r.journal.push e } :=
  ⟨[e], by simp, by simpa using he⟩

theorem tells_take (r : Round σ) (c : Confirm) : Tells link r (r.take c) := by
  refine ⟨confirmEvents c (r.books.handle c).1, by simp [take], fun e he => .inl ?_⟩
  rintro round count rfl
  unfold confirmEvents at he
  split at he <;> simp at he

theorem tells_absorb (r : Round σ) (s : σ) : ∀ cs : List Confirm, Tells link r (r.absorb cs s) := by
  suffices h : ∀ (cs : List Confirm) (r : Round σ), Tells link r (cs.foldl take r) from
    fun cs => h cs { r with link := s }
  intro cs
  induction cs with
  | nil => exact fun r => .refl rfl
  | cons c cs ih => exact fun r => (tells_take r c).trans (ih (r.take c))

theorem tells_watch (done : Round σ → Bool) : ∀ (lull : Lull Confirm σ) (r : Round σ),
    Tells link r (lull.watch absorb done r).2
  | .timeUp events s, r => tells_absorb r s events
  | .stir events s next, r => by
    have h : Tells link r (r.absorb events s) := tells_absorb r s events
    rw [Lull.watch]
    split
    · exact h
    · exact h.trans (tells_watch done next _)

end Round

namespace RoundM

open Round

/-- However the step ends, the journal goes on with passing events. -/
def Tells (link : Link σ) (m : RoundM σ α) : Prop :=
  ∀ r, Leads m r (fun _ => r.Tells link) (fun _ => r.Tells link)

variable {link : Link σ}

theorem tells_pure (a : α) : Tells link (pure a : RoundM σ α) := fun _ => .refl rfl

theorem tells_throw (e : Failure) : Tells link (throw e : RoundM σ α) := fun _ => .refl rfl

theorem tells_note {e : Event} (he : link.Passing e) : Tells link (note e : RoundM σ Unit) :=
  fun _ => tells_push he

theorem tells_modify {f : Round σ → Round σ} (h : ∀ r, (f r).journal = r.journal) :
    Tells link (modify f : RoundM σ PUnit) := fun r => .refl (h r)

theorem Tells.bind {m : RoundM σ β} {f : β → RoundM σ α} (hm : Tells link m)
    (hf : ∀ b, Tells link (f b)) : Tells link (m >>= f) := fun r => by
  rw [leads_bind]
  refine (hm r).imp (fun b r' h => ?_) fun _ _ h => h
  exact (hf b r').imp (fun _ _ h' => h.trans h') fun _ _ h' => h.trans h'

theorem tells_get {f : Round σ → RoundM σ α} (h : ∀ r, Leads (f r) r (fun _ => r.Tells link)
    (fun _ => r.Tells link)) : Tells link (get >>= f) := fun r => by
  rw [leads_bind]
  exact h r

theorem tells_ite {c : Prop} [Decidable c] {m m' : RoundM σ α} (hm : Tells link m)
    (hm' : Tells link m') : Tells link (if c then m else m') := by
  split_ifs
  · exact hm
  · exact hm'

theorem tells_call {f : σ → Reply Confirm σ α} (h : ∀ s, ∀ e ∈ (f s).notes, link.Notes e) :
    Tells link (call f) := fun r => by
  have hnotes : Round.Tells link r { r with journal := r.journal ++ (f r.link).notes } :=
    ⟨(f r.link).notes, by simp, fun e he => .inr (h _ e he)⟩
  have htells := hnotes.trans (tells_absorb _ (f r.link).state (f r.link).events)
  unfold Leads
  rw [call_run]
  cases (f r.link).answer <;> exact htells

end RoundM

namespace Round

open RoundM

variable (link : Link σ) (settings : Settings) (number : Nat)

theorem tells_ensureDeclared (destination : String) :
    RoundM.Tells link (ensureDeclared link destination) := by
  refine tells_get fun r => tells_ite (tells_pure _) ?_ r
  exact (tells_call fun s _ he => .declare destination s he).bind fun _ => tells_modify fun _ => rfl

theorem tells_recordNext (m : Message) : RoundM.Tells link (recordNext link m) := by
  refine tells_get fun r => ?_
  dsimp only
  split
  · exact .refl rfl
  · exact .refl rfl

theorem tells_sendOne (m : Message) : RoundM.Tells link (sendOne link settings m) := by
  refine (tells_ensureDeclared link _).bind fun _ => (tells_recordNext link m).bind fun expected =>
    (tells_call fun s _ he => .transmit _ _ _ s he).bind fun assigned => ?_
  have hcount : RoundM.Tells link (do
      modify fun r => { r with sent := r.sent + 1 }
      note (.published assigned (link.nextTag (← get).link) m.id m.destination)) := by
    refine Tells.bind (tells_modify fun _ => rfl) fun _ => tells_get fun r => ?_
    exact tells_note (.inl (by rintro _ _ ⟨⟩)) r
  exact tells_ite ((tells_throw _).bind fun _ => hcount) hcount

theorem tells_sendAll : ∀ ms : List Message, RoundM.Tells link (sendAll link settings ms)
  | [] => tells_pure _
  | m :: rest => (tells_sendOne link settings m).bind fun _ => tells_sendAll rest

theorem tells_awaitBatch (batch : Nat) :
    RoundM.Tells link (awaitBatch link settings number batch) := by
  refine (tells_call fun s _ he => .awaitConfirms _ s he).bind fun inTime =>
    tells_ite (tells_pure _) (tells_get fun r => ?_)
  exact (Tells.bind (tells_note (.inl (by rintro _ _ ⟨⟩))) fun _ => tells_throw _) r

theorem tells_sendBatches : ∀ (batches : List (List Message)) (batch : Nat),
    RoundM.Tells link (sendBatches link settings number batch batches)
  | [], _ => tells_pure _
  | ms :: rest, batch => by
    refine (tells_sendAll link settings ms).bind fun _ => tells_ite ?_ ?_
    · exact (tells_awaitBatch link settings number batch).bind fun _ =>
        tells_sendBatches rest (batch + 1)
    · exact tells_sendBatches rest (batch + 1)

theorem tells_drain : RoundM.Tells link (drain link settings number) := by
  refine tells_get fun r => ?_
  rw [leads_ite]
  refine ⟨fun _ => .refl rfl, fun _ => ?_⟩
  have hwatch : r.Tells link ((link.lull settings.timeout r.link).watch absorb drained r).2 :=
    tells_watch drained _ r
  simp only [leads_bind, leads_set, leads_ite, leads_pure, leads_note, leads_throw]
  exact ⟨fun _ => hwatch, fun _ => hwatch.trans (tells_push (.inl (by rintro _ _ ⟨⟩)))⟩

theorem tells_drive (messages : List Message) :
    RoundM.Tells link (drive link settings number messages) := by
  refine Tells.bind (tells_modify fun _ => rfl) fun _ =>
    (tells_call fun s _ he => .enableConfirms s he).bind fun _ => tells_get fun r => ?_
  exact (Tells.bind (tells_note (.inl (by rintro _ _ ⟨⟩))) fun _ =>
    (tells_sendBatches link settings number _ _).bind fun _ => tells_drain link settings number) r

theorem tells_closeSession (r : Round σ) :
    Tells link r ((closeSession link number).run r).2 := by
  have hcall : Leads (call link.close) r _ _ :=
    tells_call (fun s _ he => .close s he) r
  unfold Leads at hcall
  unfold closeSession
  rw [stateM_bind_run]
  generalize (ExceptT.run (call link.close)).run r = out at hcall ⊢
  obtain ⟨result, r'⟩ := out
  cases result with
  | ok _ => exact hcall
  | error e =>
    cases e with
    | link fault => exact hcall.trans (tells_push (.inl (by rintro _ _ ⟨⟩)))
    | _ => exact hcall

theorem tells_begun (j : Journaled σ) : Tells link (start j) (begun link j) := by
  have hcall : Leads (call link.openSession) (start j) _ _ :=
    tells_call (fun s _ he => .openSession s he) (start j)
  unfold Leads at hcall
  rw [opening_run] at hcall
  cases hanswer : (link.openSession j.state).answer <;>
    rw [hanswer] at hcall <;> exact hcall

theorem journal_abandon (r : Round σ) : ((abandon number).run r).2.journal.toList
    = r.journal.toList ++ if r.books.inFlight.size = 0 then []
      else [.abandoned number r.books.inFlight.size] := by
  change (if r.books.inFlight.size = 0 then r else _).journal.toList = _
  split_ifs <;> simp

/-- What is left to do when something failed on an open session. -/
theorem conduct_run_error {messages : List Message} {j : Journaled σ}
    (hopen : (link.openSession j.state).answer = .ok ()) {e : Failure} {r : Round σ}
    (hdrive : (ExceptT.run (drive link settings number messages)).run (begun link j)
      = (.error e, r)) :
    (conduct link settings number messages).run (start j)
      = (.error e, ((abandon number).run ((closeSession link number).run r).2).2) := by
  unfold conduct
  rw [stateM_bind_run, opening_run, hopen]
  simp only [Except.mapError]
  rw [stateM_bind_run, hdrive]
  rfl

theorem conduct_run_ok {messages : List Message} {j : Journaled σ}
    (hopen : (link.openSession j.state).answer = .ok ()) {r : Round σ}
    (hdrive : (ExceptT.run (drive link settings number messages)).run (begun link j)
      = (.ok (), r)) :
    ∃ outcome, ((conduct link settings number messages).run (start j)).1 = .ok outcome := by
  unfold conduct
  rw [stateM_bind_run, opening_run, hopen]
  simp only [Except.mapError]
  rw [stateM_bind_run, hdrive]
  exact ⟨_, rfl⟩

/-- A round that failed on an open session ends with telling how many messages are in flight, unless
there is none; before that nobody but the link tells of any. -/
theorem journal_conduct (messages : List Message) (j : Journaled σ)
    (hopen : (link.openSession j.state).answer = .ok ()) {e : Failure}
    (hfailed : ((conduct link settings number messages).run (start j)).1 = .error e) :
    let r := ((conduct link settings number messages).run (start j)).2
    ∃ told : List Event, (∀ e ∈ told, link.Passing e)
      ∧ r.journal.toList = j.journal.toList ++ told
        ++ if r.books.inFlight.size = 0 then []
          else [.abandoned number r.books.inFlight.size] := by
  have hdrive := tells_drive link settings number messages (begun link j)
  unfold Leads at hdrive
  rcases hout : (ExceptT.run (drive link settings number messages)).run (begun link j)
    with ⟨e' | _, r⟩
  · rw [hout] at hdrive
    rw [conduct_run_error link settings number hopen hout]
    obtain ⟨told, heq, htold⟩ :=
      ((tells_begun link j).trans hdrive).trans (tells_closeSession link number r)
    have habandon := journal_abandon number ((closeSession link number).run r).2
    rw [← (abandon_run number ((closeSession link number).run r).2).2, heq] at habandon
    exact ⟨told, htold, habandon⟩
  · obtain ⟨outcome, hok⟩ := conduct_run_ok link settings number hopen hout
    rw [hok] at hfailed
    exact absurd hfailed nofun

end Round

end ConfirmedDelivery
