import ConfirmedDelivery.Proofs.Round.Plan

/-!
# What a round upholds

A property of the messages sent so far, the destinations declared, the link and the books that every
call and every recording keeps (`Upholds`) holds when the round has come to its end, and then all
messages are sent and none is in flight (`conduct_concludes`). The property may also be about the
number of messages sent since the round last waited (`Paced`): unless it is streaming, a round sends
no more than one batch before it waits, and when all is sent it has waited for that too
(`conduct_concludes_paced`).
-/

namespace ConfirmedDelivery

variable {σ α : Type}

namespace Round

open RoundM

variable (link : Link σ) (settings : Settings)

/-- What a round upholds that sends `messages` on a session opened in the state `s₀`: as long as
nothing fails `during` holds between the steps, of the messages sent, the destinations declared, the
link and the books; and `failed` holds of the failure, the messages recorded, the link and the books
once something failed. -/
structure Upholds (messages : List Message) (s₀ : σ)
    (during : List Message → List String → σ → Books Message → Prop)
    (failed : Failure → List Message → σ → Books Message → Prop) : Prop where
  enable : (link.enableConfirms (link.listen s₀)).Ends ∅ (fun _ => during [] [])
    (fun fault => failed (.link fault) [])
  declare : ∀ {done declared s b} (destination : String), during done declared s b →
    destination ∉ declared → (link.declare destination s).Ends b
      (fun _ => during done (destination :: declared)) (fun fault => failed (.link fault) done)
  duplicate : ∀ {done declared s b m}, during done declared s b → done ++ [m] <+: messages →
    b.add? (link.nextTag s) m = none → failed (.duplicateTag (link.nextTag s)) done s b
  transmit : ∀ {done declared s b b' m}, during done declared s b → done ++ [m] <+: messages →
    m.destination ∈ declared → b.add? (link.nextTag s) m = some b' →
    (link.transmit m.destination (m.properties settings.contentType settings.persistent)
        m.body s).Ends b'
      (fun tag s' b => if tag = link.nextTag s then during (done ++ [m]) declared s' b
        else failed (.tagMismatch (link.nextTag s) tag) (done ++ [m]) s' b)
      (fun fault => failed (.link fault) (done ++ [m]))
  await : ∀ {done declared s b} (batch : Nat), during done declared s b →
    settings.pacing ≠ .streaming →
    (link.awaitConfirms settings.batchConfirmTimeout s).Ends b
      (fun inTime s b => if inTime then during done declared s b
        else failed (.batchConfirmTimeout batch settings.batchConfirmTimeout) done s b)
      (fun fault => failed (.link fault) done)
  lull : ∀ {declared s b}, during messages declared s b → b.inFlight.drained = false →
    (link.lull settings.timeout s).Keeps (during messages declared)
      (fun s b => failed (.confirmationTimeout b.inFlight.size settings.timeout) messages s b) b

/-- As `Upholds`, where `during` is also of the number of messages sent since the round last waited. -/
structure Paced (messages : List Message) (s₀ : σ)
    (during : Nat → List Message → List String → σ → Books Message → Prop)
    (failed : Failure → List Message → σ → Books Message → Prop) : Prop where
  enable : (link.enableConfirms (link.listen s₀)).Ends ∅ (fun _ => during 0 [] [])
    (fun fault => failed (.link fault) [])
  declare : ∀ {k done declared s b} (destination : String), during k done declared s b →
    destination ∉ declared → (link.declare destination s).Ends b
      (fun _ => during k done (destination :: declared)) (fun fault => failed (.link fault) done)
  duplicate : ∀ {k done declared s b m}, during k done declared s b → done ++ [m] <+: messages →
    b.add? (link.nextTag s) m = none → failed (.duplicateTag (link.nextTag s)) done s b
  transmit : ∀ {k done declared s b b' m}, during k done declared s b → done ++ [m] <+: messages →
    (settings.pacing ≠ .streaming → k < settings.chunkSize) →
    m.destination ∈ declared → b.add? (link.nextTag s) m = some b' →
    (link.transmit m.destination (m.properties settings.contentType settings.persistent)
        m.body s).Ends b'
      (fun tag s' b => if tag = link.nextTag s then during (k + 1) (done ++ [m]) declared s' b
        else failed (.tagMismatch (link.nextTag s) tag) (done ++ [m]) s' b)
      (fun fault => failed (.link fault) (done ++ [m]))
  await : ∀ {k done declared s b} (i : Nat), during k done declared s b →
    settings.pacing ≠ .streaming → AtBatch settings.chunkSize messages i k done →
    (link.awaitConfirms settings.batchConfirmTimeout s).Ends b
      (fun inTime s b => if inTime then during 0 done declared s b
        else failed (.batchConfirmTimeout (i + 1) settings.batchConfirmTimeout) done s b)
      (fun fault => failed (.link fault) done)
  lull : ∀ {k declared s b}, during k messages declared s b →
    (settings.pacing ≠ .streaming → k = 0) → b.inFlight.drained = false →
    (link.lull settings.timeout s).Keeps
      (fun s b => b.inFlight.drained = true → during k messages declared s b)
      (fun s b => failed (.confirmationTimeout b.inFlight.size settings.timeout) messages s b) b

variable {link settings} {messages : List Message} {s₀ : σ}
  {failed : Failure → List Message → σ → Books Message → Prop}

theorem Upholds.paced {during : List Message → List String → σ → Books Message → Prop}
    (h : Upholds link settings messages s₀ during failed) :
    Paced link settings messages s₀ (fun _ => during) failed where
  enable := h.enable
  declare destination hduring hd := h.declare destination hduring hd
  duplicate hduring hdone hadd := h.duplicate hduring hdone hadd
  transmit hduring hdone _ hd hadd := h.transmit hduring hdone hd hadd
  await i hduring hpacing _ := h.await (i + 1) hduring hpacing
  lull hduring _ hdrained := (h.lull hduring hdrained).if_drained

theorem Paced.planned {during : Nat → List Message → List String → σ → Books Message → Prop}
    (h : Paced link settings messages s₀ during failed) :
    Planned link settings messages s₀ (fun k _ => during k) failed where
  enable := h.enable
  declare destination hduring hd _ := h.declare destination hduring hd
  duplicate hduring hdone _ hadd := h.duplicate hduring hdone hadd
  transmit hduring hdone _ hk hd hadd := h.transmit hduring hdone hk hd hadd
  await i hduring hpacing hbatch _ := h.await i hduring hpacing hbatch
  lull hduring hk hdrained := h.lull hduring hk hdrained

/-- How a round ends that upholds `during` and `failed`: its session could not be opened; or all
messages are sent, none is in flight and the session is closed; or a failure came up on the way. -/
def Concludes (link : Link σ) (messages : List Message) (s : σ)
    (during : List Message → List String → σ → Books Message → Prop)
    (failed : Failure → List Message → σ → Books Message → Prop) :
    Except Failure (Outcome Message) → σ → Prop
  | .ok outcome, s' =>
    ∃ declared s₁ b, during messages declared s₁ b ∧ b.inFlight.drained = true
      ∧ (link.openSession s).answer = .ok () ∧ s' = (link.close s₁).state
      ∧ outcome = ⟨messages.length, (b.handleAll (link.close s₁).events).acked,
          (b.handleAll (link.close s₁).events).rejected⟩
  | .error e, s' =>
    (∃ fault, (link.openSession s).answer = .error fault ∧ e = .link fault
        ∧ s' = (link.openSession s).state)
      ∨ ∃ done s₁ b, done <+: messages ∧ failed e done s₁ b
        ∧ (link.openSession s).answer = .ok () ∧ s' = (link.close s₁).state

/-- How a round ends whose session ends as `ok` and `fail` say: it was not opened, or it is closed
then, and confirms that come in meanwhile are taken in. -/
def Closes (link : Link σ) (s : σ) (ok : Round σ → Prop) (fail : Failure → Round σ → Prop) :
    Except Failure (Outcome Message) → Round σ → Prop
  | .ok outcome, r' =>
    (link.openSession s).answer = .ok () ∧ ∃ r, ok r ∧ r'.link = (link.close r.link).state
      ∧ r'.books = r.books.handleAll (link.close r.link).events
      ∧ outcome = ⟨r.sent, r'.books.acked, r'.books.rejected⟩
  | .error e, r' =>
    (∃ fault, (link.openSession s).answer = .error fault ∧ e = .link fault
        ∧ r'.link = (link.openSession s).state ∧ r'.books = ∅)
      ∨ (link.openSession s).answer = .ok () ∧ ∃ r, fail e r
        ∧ r'.link = (link.close r.link).state
        ∧ r'.books = r.books.handleAll (link.close r.link).events

theorem conduct_closes {ok : Round σ → Prop} {fail : Failure → Round σ → Prop} (j : Journaled σ)
    (number : Nat) (h : (link.openSession j.state).answer = .ok () →
      Leads (drive link settings number messages) (begun link j) (fun _ => ok) fail) :
    Closes link j.state ok fail ((conduct link settings number messages).run (start j)).1
      ((conduct link settings number messages).run (start j)).2 := by
  unfold conduct
  rw [stateM_bind_run, opening_run]
  obtain ⟨journal, hbegun⟩ := begun_eq link j
  cases hopen : (link.openSession j.state).answer with
  | error fault => exact .inl ⟨fault, hopen, rfl, by rw [hbegun]; exact ⟨rfl, rfl⟩⟩
  | ok u =>
    have hdrive := h hopen
    simp only [Except.mapError, stateM_bind_run]
    unfold Leads at hdrive
    generalize (ExceptT.run (drive link settings number messages)).run _ = d at hdrive ⊢
    obtain ⟨result, r⟩ := d
    obtain ⟨journal', hclose⟩ := closeSession_run link number r
    rw [hclose]
    cases result with
    | error e =>
      exact .inr ⟨hopen, r, hdrive, abandon_run number _⟩
    | ok u => exact ⟨hopen, r, hdrive, rfl, rfl, rfl⟩

theorem conduct_concludes_paced
    {during : Nat → List Message → List String → σ → Books Message → Prop} (j : Journaled σ)
    (number : Nat) (hsize : 0 < settings.chunkSize)
    (h : (link.openSession j.state).answer = .ok () →
      Paced link settings messages (link.openSession j.state).state during failed) :
    Concludes link messages j.state
      (Rested settings (fun k _ => during k) (plan settings messages)) failed
      ((conduct link settings number messages).run (start j)).1
      ((conduct link settings number messages).run (start j)).2.leave.state := by
  have hcloses := conduct_closes j number fun hopen => by
    obtain ⟨journal, hbegun⟩ := begun_eq link j
    rw [hbegun]
    exact leads_drive (h hopen).planned hsize rfl rfl rfl rfl number
  generalize (conduct link settings number messages).run (start j) = out at hcloses ⊢
  obtain ⟨result, r'⟩ := out
  cases result with
  | ok outcome =>
    obtain ⟨hopen, r, ⟨declared, hsent, hdrained⟩, hlink, hbooks, houtcome⟩ := hcloses
    refine ⟨declared, r.link, r.books, hsent.holds, hdrained, hopen, hlink, ?_⟩
    rw [houtcome, hbooks, hsent.count]
  | error e =>
    rcases hcloses with ⟨fault, hopen, rfl, hlink, -⟩ | ⟨hopen, r, ⟨done, hdone, hfailed⟩, hlink, -⟩
    · exact .inl ⟨fault, hopen, rfl, hlink⟩
    · exact .inr ⟨done, r.link, r.books, hdone, hfailed, hopen, hlink⟩

theorem conduct_concludes {during : List Message → List String → σ → Books Message → Prop}
    (j : Journaled σ) (number : Nat) (hsize : 0 < settings.chunkSize)
    (h : (link.openSession j.state).answer = .ok () →
      Upholds link settings messages (link.openSession j.state).state during failed) :
    Concludes link messages j.state during failed
      ((conduct link settings number messages).run (start j)).1
      ((conduct link settings number messages).run (start j)).2.leave.state := by
  have hends := conduct_concludes_paced j number hsize fun hopen => (h hopen).paced
  unfold Concludes at hends ⊢
  split at hends
  · obtain ⟨declared, s₁, b, ⟨_, _, hduring⟩, hends⟩ := hends
    exact ⟨declared, s₁, b, hduring, hends⟩
  · exact hends

end Round

end ConfirmedDelivery
