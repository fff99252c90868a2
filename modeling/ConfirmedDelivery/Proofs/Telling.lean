import ConfirmedDelivery.Proofs.Publisher
import ConfirmedDelivery.Proofs.Transcript

/-!
# What a transcript tells

While a round is overheard, the transcript of its session is the history of its books (`Told`). What
such a history keeps as it grows can be read off the transcript of a round that has come to its end
(`conduct_told`).
-/

namespace ConfirmedDelivery

variable {σ α : Type}

/-- The session that was opened last is known by a history of the books, in which these messages are
recorded and of which `P` holds. -/
def Told (P : List (Posting Message) → Prop) (parcel : Message → Parcel)
    (earlier : List (List Passage)) (done : List Message) (sessions : List (List Passage))
    (b : Books Message) : Prop :=
  ∃ h : List (Posting Message), sessions = h.map (Posting.erase parcel) :: earlier
    ∧ b = (∅ : Books Message).replay h ∧ h.filterMap Posting.item? = done ∧ P h

section Told

variable {P : List (Posting Message) → Prop} {parcel : Message → Parcel}
  {earlier : List (List Passage)} {done : List Message}

theorem told_start (hnil : P []) : Told P parcel earlier [] ([] :: earlier) ∅ :=
  ⟨[], rfl, rfl, rfl, hnil⟩

theorem Told.sent {sessions : List (List Passage)} {b b' : Books Message} {t : Tag} {m : Message}
    (h : Told P parcel earlier done sessions b) (hadd : b.add? t m = some b')
    (hsent : ∀ h, b = (∅ : Books Message).replay h → P h → P (h ++ [.recorded t m])) :
    Told P parcel earlier (done ++ [m]) (Overheard.more [.sent t (parcel m)] sessions) b' := by
  obtain ⟨h, rfl, rfl, hitems, hP⟩ := h
  refine ⟨h ++ [.recorded t m], ?_, ?_, ?_, hsent h rfl hP⟩
  · rw [List.map_append]
    rfl
  · rw [Books.replay_append, Books.replay_of_recorded hadd]
    rfl
  · rw [List.filterMap_append, hitems]
    rfl

theorem more_erase (cs : List Confirm) (h : List (Posting Message)) :
    Overheard.more (cs.map .heard) (h.map (Posting.erase parcel) :: earlier)
      = (h ++ cs.map Posting.answered).map (Posting.erase parcel) :: earlier := by
  rw [List.map_append, erase_answered]
  rfl

theorem sessions_close {link : Link σ} {o : Overheard σ} {h : List (Posting Message)}
    (hsessions : o.sessions = h.map (Posting.erase parcel) :: earlier) :
    (link.overheard.close o).state.sessions
      = (h ++ (link.close o.state).events.map Posting.answered).map (Posting.erase parcel)
        :: earlier := by
  rw [← more_erase, ← hsessions]
  rfl

theorem items_append_answered (h : List (Posting Message)) (cs : List Confirm) :
    (h ++ cs.map Posting.answered).filterMap Posting.item? = h.filterMap Posting.item? := by
  rw [List.filterMap_append, item?_answered, List.append_nil]

variable (hheard : ∀ h c, P h → P (h ++ [.answered c]))

include hheard

theorem kept_answered : ∀ (cs : List Confirm) {h : List (Posting Message)}, P h →
    P (h ++ cs.map .answered)
  | [], _, hP => by rwa [List.map_nil, List.append_nil]
  | c :: cs, h, hP => by
    have hlater := kept_answered cs (hheard h c hP)
    rwa [List.append_assoc] at hlater

theorem Told.heard {sessions : List (List Passage)} {b : Books Message}
    (h : Told P parcel earlier done sessions b) (cs : List Confirm) :
    Told P parcel earlier done (Overheard.more (cs.map .heard) sessions) (b.handleAll cs) := by
  obtain ⟨h, rfl, rfl, hitems, hP⟩ := h
  refine ⟨h ++ cs.map .answered, more_erase cs h, ?_, ?_, kept_answered hheard cs hP⟩
  · rw [Books.replay_append, Books.replay_answered]
  · rw [items_append_answered, hitems]

theorem hear_tells {o : Overheard σ} {b : Books Message} {f : σ → Reply Confirm σ α}
    (h : Told P parcel earlier done o.sessions b) :
    (o.hear [] f).Ends b (fun _ o' b => Told P parcel earlier done o'.sessions b)
      fun _ o' b => Told P parcel earlier done o'.sessions b :=
  Reply.ends_of (fun _ => h.heard hheard _) fun _ => h.heard hheard _

theorem lull_tells : ∀ (lull : Lull Confirm σ) {sessions : List (List Passage)}
    {b : Books Message}, Told P parcel earlier done sessions b →
    (lull.overheard sessions).Keeps (fun o b => Told P parcel earlier done o.sessions b)
      (fun o b => Told P parcel earlier done o.sessions b) b
  | .timeUp _ _, _, _, h => h.heard hheard _
  | .stir _ _ next, _, _, h => ⟨h.heard hheard _, fun _ => lull_tells next (h.heard hheard _)⟩

end Told

section Paced

variable {P : List (Posting Message) → Prop} {link : Link σ} {settings : Settings}
  {messages : List Message} {o : Overheard σ}
  {during : Nat → List Message → List String → Overheard σ → Books Message → Prop}
  {failed : Failure → List Message → Overheard σ → Books Message → Prop}

/-- What a history keeps that grows while a round is overheard: nothing is recorded but under the tag
that is announced, and only while there is room in the batch. -/
structure Kept (link : Link σ) (settings : Settings)
    (during : Nat → List Message → List String → Overheard σ → Books Message → Prop)
    (P : List (Posting Message) → Prop) : Prop where
  nil : P []
  heard : ∀ h c, P h → P (h ++ [.answered c])
  sent : ∀ {k done declared o b b' m h}, during k done declared o b →
    (settings.pacing ≠ .streaming → k < settings.chunkSize) →
    b.add? (link.nextTag o.state) m = some b' → b = (∅ : Books Message).replay h → P h →
    P (h ++ [.recorded (link.nextTag o.state) m])

theorem paced_told (hkept : Kept link settings during P)
    (h : Round.Paced link.overheard settings messages (link.overheard.openSession o).state during
      failed) :
    let told := Told P settings.parcel o.sessions
    Round.Paced link.overheard settings messages (link.overheard.openSession o).state
      (fun k done declared o' b => during k done declared o' b ∧ told done o'.sessions b)
      (fun e done o' b => failed e done o' b ∧ told done o'.sessions b) where
  enable := by
    have hopened : Told P settings.parcel o.sessions [] _ _ :=
      (told_start hkept.nil).heard hkept.heard (link.openSession o.state).events
    rw [Books.handleAll_empty] at hopened
    exact h.enable.and (hear_tells hkept.heard hopened)
  declare destination hd hfree :=
    (h.declare destination hd.1 hfree).and (hear_tells hkept.heard hd.2)
  duplicate hd hdone hadd := ⟨h.duplicate hd.1 hdone hadd, hd.2⟩
  transmit {k done declared s b b' m} hd hdone hk hdeclared hadd := by
    have hsent := hd.2.sent hadd fun _ => hkept.sent hd.1 hk hadd
    have hheard := hsent.heard hkept.heard (link.transmit m.destination
      (m.properties settings.contentType settings.persistent) m.body s.state).events
    rw [← Overheard.more_append] at hheard
    have htells : (link.overheard.transmit m.destination
        (m.properties settings.contentType settings.persistent) m.body s).Ends b'
        (fun _ o' b => Told P settings.parcel o.sessions (done ++ [m]) o'.sessions b)
        fun _ o' b => Told P settings.parcel o.sessions (done ++ [m]) o'.sessions b :=
      Reply.ends_of (fun _ => hheard) fun _ => hheard
    refine ((h.transmit hd.1 hdone hk hdeclared hadd).and htells).imp (fun tag o' b hends => ?_)
      fun _ _ _ hends => hends
    split_ifs at hends ⊢
    · exact hends
    · exact hends
  await i hd hpacing hbatch := by
    refine ((h.await i hd.1 hpacing hbatch).and (hear_tells hkept.heard hd.2)).imp
      (fun inTime o' b hends => ?_) fun _ _ _ hends => hends
    split_ifs at hends ⊢
    · exact hends
    · exact hends
  lull hd hk hdrained := ((h.lull hd.1 hk hdrained).and (lull_tells hkept.heard _ hd.2)).imp
    (fun _ _ ⟨hduring, htold⟩ hdrained => ⟨hduring hdrained, htold⟩) fun _ _ hfailed => hfailed

end Paced

/-- A history that records the first of the messages that were to be sent. -/
theorem postings_erase_of_items {parcel : Message → Parcel} {messages : List Message}
    {h : List (Posting Message)} (hitems : h.filterMap Posting.item? <+: messages) :
    postings messages (h.map (Posting.erase parcel)) = h := by
  obtain ⟨rest, rfl⟩ := hitems
  exact postings_erase_append parcel rest h

namespace Publisher

variable (p : Publisher) (link : Link σ) (number : Nat) (messages : List Message) (j : Journaled σ)

/-- One round on a link that is overheard. -/
def overhearRound : Except Failure (Outcome Message) × Journaled (Overheard σ) :=
  p.conduct link.overheard number messages ⟨Overheard.start j.state, j.journal⟩

theorem overhearRound_alike :
    (p.overhearRound link number messages j).1 = (p.conduct link number messages j).1
      ∧ (p.overhearRound link number messages j).2.state.state
        = (p.conduct link number messages j).2.state :=
  Round.alike_conduct p.settings number (overheard_alike link)
    (show (⟨Overheard.start j.state, j.journal⟩ : Journaled (Overheard σ)).state.state = j.state
      from rfl) messages

/-- How a round ends of whose books this is the history: all messages are recorded; or something
failed, and then the session was closed. -/
def EndsTold (link : Link σ) (messages : List Message)
    (failed : Failure → List Message → Overheard σ → Books Message → Prop)
    (h : List (Posting Message)) : Except Failure (Outcome Message) → Overheard σ → Prop
  | .ok _, _ => h.filterMap Posting.item? = messages
  | .error e, o' =>
    (∃ fault, e = .link fault)
      ∨ ∃ before o, h = before ++ (link.close o.state).events.map .answered
        ∧ o' = (link.overheard.close o).state
        ∧ failed e (h.filterMap Posting.item?) o ((∅ : Books Message).replay before)

/-- What is known of the transcript of a round. -/
theorem conduct_told {P : List (Posting Message) → Prop}
    {during : Nat → List Message → List String → Overheard σ → Books Message → Prop}
    {failed : Failure → List Message → Overheard σ → Books Message → Prop}
    (hkept : Kept link p.settings during P)
    (hpaced : (link.openSession j.state).answer = .ok () →
      Round.Paced link.overheard p.settings messages
        (link.overheard.openSession (Overheard.start j.state)).state during failed) :
    ∃ h : List (Posting Message),
      (p.overhearRound link number messages j).2.state.sessions
        = [h.map (Posting.erase p.settings.parcel)]
      ∧ h.filterMap Posting.item? <+: messages ∧ P h
      ∧ EndsTold link messages failed h (p.overhearRound link number messages j).1
          (p.overhearRound link number messages j).2.state := by
  have hends := Round.conduct_concludes_paced ⟨Overheard.start j.state, j.journal⟩ number
    p.chunkSize_pos fun hopen => paced_told hkept (hpaced hopen)
  change Round.Concludes _ _ _ _ _ (p.overhearRound link number messages j).1
    (p.overhearRound link number messages j).2.state at hends
  generalize p.overhearRound link number messages j = r at hends ⊢
  obtain ⟨result, j'⟩ := r
  cases result with
  | ok outcome =>
    obtain ⟨-, o, b, ⟨-, -, -, before, hsessions, -, rfl, hP⟩, -, -, hstate, -⟩ := hends
    have hitems := items_append_answered before (link.close o.state).events
    refine ⟨before ++ (link.close o.state).events.map Posting.answered, ?_, ?_,
      kept_answered hkept.heard _ hP, hitems⟩
    · exact (congrArg Overheard.sessions hstate).trans (sessions_close hsessions)
    · rw [hitems]
  | error e =>
    rcases hends with ⟨fault, -, rfl, hstate⟩ | ⟨done, o, b, hdone, ⟨hfailed, htold⟩, -, hstate⟩
    · refine ⟨(link.openSession j.state).events.map .answered, ?_, ?_,
        kept_answered hkept.heard _ hkept.nil, .inl ⟨fault, rfl⟩⟩
      · rw [erase_answered]
        exact congrArg Overheard.sessions hstate
      · rw [item?_answered]
        exact List.nil_prefix
    · obtain ⟨before, hsessions, rfl, rfl, hP⟩ := htold
      refine ⟨before ++ (link.close o.state).events.map .answered, ?_, ?_,
        kept_answered hkept.heard _ hP, .inr ⟨before, o, rfl, hstate, ?_⟩⟩
      · exact (congrArg Overheard.sessions hstate).trans (sessions_close hsessions)
      · rwa [items_append_answered]
      · rwa [items_append_answered]

end Publisher

end ConfirmedDelivery
