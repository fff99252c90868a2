import ConfirmedDelivery.Proofs.Minutes

/-!
# The protocol of a round

Whatever the link does, a round opens a session, carries out its plan from the beginning until
something goes wrong, and closes the session; then nothing but that comes after the call that went
wrong (`Orderly`, `conduct_orderly`). A message is recorded under the tag announced for it before it
is sent. The rounds of a call open their sessions one after another (`publishAll_orderly`).
-/

namespace ConfirmedDelivery

variable {σ α : Type}

/-- What is done by a call; the announced tag plays no part in it. -/
def Call.move : Call → Move
  | .openSession => .openSession
  | .listen => .listen
  | .enableConfirms => .enableConfirms
  | .declare destination => .declare destination
  | .transmit _ destination properties body => .transmit ⟨destination, properties, body⟩
  | .awaitConfirms timeout => .awaitConfirms timeout
  | .close => .close

def moves (calls : List (Call × Ending)) : List Move := calls.map fun c => c.1.move

/-- Every one of these calls came back well. -/
def Smooth (calls : List (Call × Ending)) : Prop := ∀ c ∈ calls, c.2 = .well

/-- How the calls on an open session end with a failure. It is that of the last call; or a tag was
announced again for the message that was to be sent next; or the plan is carried out, and not
everything is answered for. -/
def Breaks (settings : Settings) (messages : List Message) (calls : List (Call × Ending)) :
    Failure → Prop
  | .link fault => ∃ before c, calls = before ++ [(c, .faulty fault)] ∧ Smooth before
  | .tagMismatch expected assigned => ∃ before destination properties body,
      calls = before ++ [(.transmit expected destination properties body, .mismatched assigned)]
        ∧ Smooth before
  | .batchConfirmTimeout _ timeout =>
    ∃ before, calls = before ++ [(.awaitConfirms timeout, .late)] ∧ Smooth before
  | .duplicateTag _ =>
    Smooth calls ∧ ∃ parcel, moves calls ++ [.transmit parcel] <+: plan settings messages
  | .confirmationTimeout _ _ => Smooth calls ∧ moves calls = plan settings messages
  | _ => False

/-- How the calls on an open session end with a result: the plan is carried out, and the books are
what is told; or there was a failure. -/
def Finishes (settings : Settings) (messages : List Message) (calls : List (Call × Ending))
    (b : Books Message) : Except Failure (Outcome Message) → Prop
  | .ok outcome => Smooth calls ∧ moves calls = plan settings messages
      ∧ outcome = ⟨messages.length, b.acked, b.rejected⟩
  | .error e => Breaks settings messages calls e

/-- A round with the messages it was given, its minutes, its books at the end, and its result. -/
structure Sitting where
  messages : List Message
  minutes : List Minute
  books : Books Message
  result : Except Failure (Outcome Message)

/-- A round that keeps to the protocol. -/
structure Orderly (settings : Settings) (s : Sitting) : Prop where
  /-- The session was refused; or it was opened, the plan was carried out from its beginning, and the
  session was closed. -/
  calls : (∃ fault, Minute.calls s.minutes = [(.openSession, .faulty fault)]
        ∧ s.result = .error (.link fault))
      ∨ ∃ calls ending,
        Minute.calls s.minutes = (.openSession, .well) :: calls ++ [(.close, ending)]
          ∧ moves calls <+: plan settings s.messages
          ∧ Finishes settings s.messages calls s.books s.result
  /-- What was sent was recorded just before under the announced tag, which was free. -/
  recorded : ∃ h : List (Posting Message),
    Minute.passages s.minutes = h.map (Posting.erase settings.parcel)
      ∧ h.filterMap Posting.item? <+: s.messages ∧ Unshared h
      ∧ s.books = (∅ : Books Message).replay h

/-! ## Taking minutes of a session -/

/-- After the minutes `base` these calls were made and these messages recorded; of the session was
heard what was heard before and what is in the minutes since. -/
def Noted (parcel : Message → Parcel) (base : List Minute) (before : List Passage)
    (calls : List (Call × Ending)) (done : List Message) (m : Minuted σ) (b : Books Message) :
    Prop :=
  ∃ made, m.minutes = base ++ made ∧ Minute.calls made = calls
    ∧ Told Unshared parcel [] done [before ++ Minute.passages made] b

theorem passages_entry {c : Call} (hc : ∀ e, (Minute.called c e).passage? = none)
    (judge : α → Ending) (r : Reply Confirm σ α) :
    Minute.passages (Minuted.entry c judge r) = r.events.map .heard := by
  rw [Minuted.entry, Minute.passages, List.filterMap_cons_none (hc _)]
  exact Minute.passages_heard _

theorem parcels_passages : ∀ ms : List Minute,
    (Minute.passages ms).filterMap Passage.parcel? = (moves (Minute.calls ms)).filterMap Move.parcel?
  | [] => rfl
  | .heard _ :: later => parcels_passages later
  | .called c e :: later => by
    have ih := parcels_passages later
    cases c with
    | transmit announced destination properties body =>
      exact congrArg (Parcel.mk destination properties body :: ·) ih
    | _ => exact ih

namespace Noted

variable {parcel : Message → Parcel} {base : List Minute} {before : List Passage}
  {calls : List (Call × Ending)} {done : List Message} {m : Minuted σ} {b : Books Message}

theorem heard (h : Noted parcel base before calls done m b) (s : σ) (cs : List Confirm) :
    Noted parcel base before calls done ⟨s, m.minutes ++ cs.map .heard⟩ (b.handleAll cs) := by
  obtain ⟨made, hminutes, hcalls, htold⟩ := h
  refine ⟨made ++ cs.map .heard, ?_, by simpa using hcalls, ?_⟩
  · rw [hminutes, List.append_assoc]
  · have := htold.heard (fun _ c h => h.answered c) cs
    simpa [Overheard.more] using this

theorem write (h : Noted parcel base before calls done m b) {c : Call}
    (hc : ∀ e, (Minute.called c e).passage? = none) (judge : α → Ending)
    (f : σ → Reply Confirm σ α) :
    Noted parcel base before (calls ++ [(c, .of judge (f m.state).answer)]) done
      (m.write c judge f).state (b.handleAll (f m.state).events) := by
  obtain ⟨made, hminutes, rfl, htold⟩ := h
  refine ⟨made ++ Minuted.entry c judge (f m.state), ?_, by simp, ?_⟩
  · simp only [Minuted.write, hminutes, List.append_assoc]
  · have := htold.heard (fun _ c h => h.answered c) (f m.state).events
    simpa [Overheard.more, passages_entry hc] using this

theorem sent (h : Noted parcel base before calls done m b) {link : Link σ} {x : Message}
    {b' : Books Message} (hadd : b.add? (link.nextTag m.state) x = some b')
    (judge : Tag → Ending) :
    let c := Call.transmit (link.nextTag m.state) (parcel x).destination (parcel x).properties
      (parcel x).body
    let f := link.transmit (parcel x).destination (parcel x).properties (parcel x).body
    Noted parcel base before (calls ++ [(c, .of judge (f m.state).answer)]) (done ++ [x])
      (m.write c judge f).state (b'.handleAll (f m.state).events) := by
  intro c f
  obtain ⟨made, hminutes, rfl, htold⟩ := h
  refine ⟨made ++ Minuted.entry c judge (f m.state), ?_, by simp, ?_⟩
  · simp only [Minuted.write, hminutes, List.append_assoc]
  · have hpassages : Minute.passages (Minuted.entry c judge (f m.state))
        = .sent (link.nextTag m.state) (parcel x) :: (f m.state).events.map .heard :=
      congrArg (Passage.sent _ _ :: ·) (Minute.passages_heard _)
    have hsent := htold.sent hadd fun h hbooks hunshared => hunshared.recorded hbooks hadd
    have := hsent.heard (fun _ c h => h.answered c) (f m.state).events
    simpa [Overheard.more, hpassages] using this

end Noted

/-! ## Carrying out the plan -/

section Plan

variable (settings : Settings) (messages : List Message) (base : List Minute)
  (before : List Passage)

/-- The plan was carried out so far and nothing went wrong. -/
def OnPlan (done' : List Move) (done : List Message) (m : Minuted σ) (b : Books Message) : Prop :=
  ∃ calls, Noted settings.parcel base before calls done m b ∧ moves calls = done' ∧ Smooth calls

/-- The plan was carried out up to a failure. -/
def OffPlan (e : Failure) (done : List Message) (m : Minuted σ) (b : Books Message) : Prop :=
  ∃ calls, Noted settings.parcel base before calls done m b
    ∧ moves calls <+: plan settings messages ∧ Breaks settings messages calls e

variable {settings messages base before}

theorem moves_snoc (calls : List (Call × Ending)) (c : Call) (e : Ending) :
    moves (calls ++ [(c, e)]) = moves calls ++ [c.move] := by
  simp [moves]

theorem Smooth.snoc {calls : List (Call × Ending)} (h : Smooth calls) (c : Call) :
    Smooth (calls ++ [(c, .well)]) := by
  intro x hx
  rcases List.mem_append.1 hx with hx | hx
  · exact h x hx
  · rw [List.mem_singleton.1 hx]

variable {link : Link σ} {made : List Move} {done : List Message} {m : Minuted σ}
  {b : Books Message}

/-- A call that is next in the plan and comes back with an answer, or fails. -/
theorem ends_write {calls : List (Call × Ending)} {c : Call} {judge : α → Ending}
    {f : σ → Reply Confirm σ α}
    (hnoted : Noted settings.parcel base before (calls ++ [(c, .of judge (f m.state).answer)]) done
      (m.write c judge f).state (b.handleAll (f m.state).events))
    (hplan : moves calls ++ [c.move] <+: plan settings messages) (hsmooth : Smooth calls) :
    (m.write c judge f).Ends b
      (fun a => Noted settings.parcel base before (calls ++ [(c, judge a)]) done)
      (fun fault => OffPlan settings messages base before (.link fault) done) := by
  unfold Reply.Ends Minuted.write at *
  dsimp only at *
  cases hanswer : (f m.state).answer with
  | ok a =>
    rw [hanswer] at hnoted
    exact hnoted
  | error fault =>
    rw [hanswer] at hnoted
    exact ⟨_, hnoted, by rwa [moves_snoc], calls, c, rfl, hsmooth⟩

theorem OnPlan.write (h : OnPlan settings base before made done m b) {c : Call}
    (hc : ∀ e, (Minute.called c e).passage? = none)
    (hplan : made ++ [c.move] <+: plan settings messages) (judge : α → Ending)
    (f : σ → Reply Confirm σ α) :
    (m.write c judge f).Ends b
      (fun a m b => ∃ calls, Noted settings.parcel base before (calls ++ [(c, judge a)]) done m b
        ∧ moves calls = made ∧ Smooth calls)
      (fun fault => OffPlan settings messages base before (.link fault) done) := by
  obtain ⟨calls, hnoted, rfl, hsmooth⟩ := h
  exact (ends_write (hnoted.write hc judge f) hplan hsmooth).imp
    (fun _ _ _ h => ⟨calls, h, rfl, hsmooth⟩) fun _ _ _ h => h

theorem OnPlan.well {calls : List (Call × Ending)} {c : Call}
    (h : Noted settings.parcel base before (calls ++ [(c, .well)]) done m b)
    (hsmooth : Smooth calls) : OnPlan settings base before (moves calls ++ [c.move]) done m b :=
  ⟨_, h, moves_snoc calls c _, hsmooth.snoc c⟩

theorem OnPlan.lull : ∀ (lull : Lull Confirm σ) {s : σ} {minutes : List Minute} {b : Books Message},
    OnPlan settings base before made done ⟨s, minutes⟩ b →
      (lull.minuted minutes).Keeps (OnPlan settings base before made done)
        (OnPlan settings base before made done) b
  | .timeUp events s', _, _, _, ⟨calls, h, hmoves⟩ => ⟨calls, h.heard s' events, hmoves⟩
  | .stir events s' next, _, _, _, ⟨calls, h, hmoves⟩ =>
    have h' := ⟨calls, h.heard s' events, hmoves⟩
    ⟨h', fun _ => OnPlan.lull next h'⟩

/-- A session that was just opened, with somebody listening to it. -/
theorem onPlan_listen (link : Link σ) (m : Minuted σ) :
    OnPlan settings
      (m.minutes ++ Minuted.entry .openSession (fun _ => .well) (link.openSession m.state))
      ((link.openSession m.state).events.map .heard) [.listen] []
      (link.minuted.listen (link.minuted.openSession m).state) ∅ := by
  have hbegin : Told Unshared settings.parcel [] [] [[]] ∅ := told_start Unshared.nil
  have htold := hbegin.heard (fun _ c h => h.answered c) (link.openSession m.state).events
  rw [Books.handleAll_empty] at htold
  refine ⟨[(.listen, .well)], ⟨[.called .listen .well], rfl, rfl, ?_⟩, rfl, by simp [Smooth]⟩
  rw [show Minute.passages [.called .listen .well] = [] from rfl, List.append_nil]
  simpa [Overheard.more] using htold

/-- Whatever the link does, a round on an open session carries out its plan until something goes
wrong. -/
theorem planned_minuted (m : Minuted σ) :
    let base := m.minutes ++ Minuted.entry .openSession (fun _ => .well) (link.openSession m.state)
    let before := (link.openSession m.state).events.map Passage.heard
    Round.Planned link.minuted settings messages (link.minuted.openSession m).state
      (fun _ made done _ => OnPlan settings base before made done)
      (OffPlan settings messages base before) := by
  intro base before
  constructor
  case enable =>
    refine ((onPlan_listen link m).write (fun _ => rfl) ⟨_, rfl⟩ _ _).imp (fun _ _ _ h => ?_)
      fun _ _ _ h => h
    obtain ⟨calls, hnoted, hmoves, hsmooth⟩ := h
    have hwell := OnPlan.well hnoted hsmooth
    rwa [hmoves] at hwell
  case declare =>
    intro k made done declared m b destination h _ hplan
    refine (h.write (c := .declare destination) (fun _ => rfl) hplan _ _).imp (fun _ _ _ h => ?_)
      fun _ _ _ h => h
    obtain ⟨calls, hnoted, rfl, hsmooth⟩ := h
    exact OnPlan.well hnoted hsmooth
  case duplicate =>
    rintro k made done declared m b x ⟨calls, hnoted, rfl, hsmooth⟩ hdone hplan hadd
    exact ⟨calls, hnoted, prefix_of_append hplan, hsmooth, _, hplan⟩
  case transmit =>
    rintro k made done declared m b b' x ⟨calls, hnoted, rfl, hsmooth⟩ hdone hplan - - hadd
    have hsent := hnoted.sent hadd
      fun tag => if tag = link.nextTag m.state then .well else .mismatched tag
    refine (ends_write hsent hplan hsmooth).imp (fun tag m' b' h => ?_) fun _ _ _ h => h
    rw [show link.minuted.nextTag m = link.nextTag m.state from rfl]
    split_ifs at h ⊢
    · exact OnPlan.well h hsmooth
    · exact ⟨_, h, by rwa [moves_snoc], calls, _, _, _, rfl, hsmooth⟩
  case await =>
    intro k made done declared m b i h _ _ hplan
    refine (h.write (c := .awaitConfirms settings.batchConfirmTimeout) (fun _ => rfl) hplan _ _).imp
      (fun inTime m' b' h => ?_) fun _ _ _ h => h
    obtain ⟨calls, hnoted, rfl, hsmooth⟩ := h
    split_ifs at hnoted ⊢
    · exact OnPlan.well hnoted hsmooth
    · exact ⟨_, hnoted, by rwa [moves_snoc], calls, rfl, hsmooth⟩
  case lull =>
    intro k declared m b h _ _
    refine (h.lull _).if_drained.imp (fun _ _ h => h) fun m b h => ?_
    obtain ⟨calls, hnoted, hmoves, hsmooth⟩ := h
    exact ⟨calls, hnoted, by rw [hmoves], hsmooth, hmoves⟩

end Plan

/-! ## From opening to closing -/

section Session

variable {settings : Settings} {messages : List Message} {link : Link σ}

/-- A session that is opened and closed, and in between carries out its plan as far as the result
says. -/
theorem orderly_session {m₀ m : Minuted σ} {calls : List (Call × Ending)} {done : List Message}
    {b : Books Message} {result : Except Failure (Outcome Message)}
    (hopen : (link.openSession m₀.state).answer = .ok ())
    (hnoted : Noted settings.parcel
      (m₀.minutes ++ Minuted.entry .openSession (fun _ => .well) (link.openSession m₀.state))
      ((link.openSession m₀.state).events.map .heard) calls done m b)
    (hdone : done <+: messages) (hplan : moves calls <+: plan settings messages)
    (hends : Finishes settings messages calls (b.handleAll (link.close m.state).events) result) :
    ∃ minutes, (link.minuted.close m).state.minutes = m₀.minutes ++ minutes
      ∧ (∀ fault, Minute.calls minutes ≠ [(.openSession, .faulty fault)])
      ∧ Orderly settings ⟨messages, minutes, b.handleAll (link.close m.state).events, result⟩ := by
  obtain ⟨made, hminutes, hcalls, h, hsessions, hbooks, hitems, hunshared⟩ :=
    hnoted.write (c := .close) (fun _ => rfl) (fun _ => .well) link.close
  let ending := Ending.of (fun _ => .well) (link.close m.state).answer
  have hall : Minute.calls (Minuted.entry .openSession (fun _ => .well)
      (link.openSession m₀.state) ++ made) = (.openSession, .well) :: calls ++ [(.close, ending)] := by
    rw [Minute.calls_append, Minuted.calls_entry, hopen, hcalls]
    rfl
  refine ⟨Minuted.entry .openSession (fun _ => .well) (link.openSession m₀.state) ++ made,
    hminutes.trans (List.append_assoc ..), fun fault hfault => ?_,
    .inr ⟨calls, ending, hall, hplan, hends⟩, h, ?_, ?_, hunshared, hbooks⟩
  · rw [hall] at hfault
    exact absurd (List.head_eq_of_cons_eq hfault) (by simp)
  · rw [Minute.passages_append, passages_entry fun _ => rfl]
    exact (List.cons.inj hsessions).1
  · rwa [hitems]

/-- A round keeps to the protocol, and where its session was opened its minutes tell so. -/
theorem conduct_opens_orderly (p : Publisher) (link : Link σ) (number : Nat)
    (messages : List Message) (j : Journaled (Minuted σ)) :
    let r := (Round.conduct link.minuted p.settings number messages).run (Round.start j)
    ∃ minutes, r.2.link.minutes = j.state.minutes ++ minutes
      ∧ ((link.openSession j.state.state).answer = .ok () →
        ∀ fault, Minute.calls minutes ≠ [(.openSession, .faulty fault)])
      ∧ Orderly p.settings ⟨messages, minutes, r.2.books, r.1⟩ := by
  intro r
  have hplanned : Round.Planned link.minuted p.settings messages
      (link.minuted.openSession j.state).state _ _ := planned_minuted j.state
  have hcloses := Round.conduct_closes j number fun _ => by
    obtain ⟨journal, hbegun⟩ := Round.begun_eq link.minuted j
    rw [hbegun]
    exact Round.leads_drive hplanned p.chunkSize_pos rfl rfl rfl rfl number
  change Round.Closes _ _ _ _ r.1 r.2 at hcloses
  generalize r = out at hcloses ⊢
  obtain ⟨result, r'⟩ := out
  cases result with
  | ok outcome =>
    obtain ⟨hopen, r, ⟨-, ⟨⟨-, -, calls, hnoted, hmoves, hsmooth⟩, -, hcount⟩, -⟩, hlink, hbooks,
      houtcome⟩ := hcloses
    dsimp only at hlink hbooks houtcome ⊢
    rw [hlink, hbooks]
    have hfinishes : Finishes p.settings messages calls
        (r.books.handleAll (link.close r.link.state).events) (.ok outcome) := by
      refine ⟨hsmooth, hmoves, ?_⟩
      rw [houtcome, hbooks, hcount]
      rfl
    obtain ⟨minutes, hminutes, hopened, horderly⟩ :=
      orderly_session hopen hnoted (List.prefix_refl _) (by rw [hmoves]) hfinishes
    exact ⟨minutes, hminutes, fun _ => hopened, horderly⟩
  | error e =>
    rcases hcloses with ⟨fault, hfault, rfl, hlink, hbooks⟩
      | ⟨hopen, r, ⟨done, hdone, calls, hnoted, hplan, hbreaks⟩, hlink, hbooks⟩
    · dsimp only at hlink hbooks ⊢
      rw [hlink, hbooks]
      -- the session was refused; confirms may have come in all the same
      have hanswer : (link.openSession j.state.state).answer = .error fault := hfault
      refine ⟨_, rfl, fun hok => ?_, .inl ⟨fault, ?_, rfl⟩,
        (link.openSession j.state.state).events.map .answered, ?_, ?_, ?_, ?_⟩
      · rw [hanswer] at hok
        exact absurd hok nofun
      · rw [Minuted.calls_entry, hanswer]
        rfl
      · rw [passages_entry fun _ => rfl, erase_answered]
      · rw [item?_answered]
        exact List.nil_prefix
      · exact kept_answered (fun _ c h => h.answered c) _ Unshared.nil
      · rw [Books.replay_answered, Books.handleAll_empty]
    · dsimp only at hlink hbooks ⊢
      rw [hlink, hbooks]
      have hfinishes : Finishes p.settings messages calls
          (r.books.handleAll (link.close r.link.state).events) (.error e) := hbreaks
      obtain ⟨minutes, hminutes, hopened, horderly⟩ :=
        orderly_session hopen hnoted hdone hplan hfinishes
      exact ⟨minutes, hminutes, fun _ => hopened, horderly⟩

theorem conduct_orderly (p : Publisher) (link : Link σ) (number : Nat) (messages : List Message)
    (j : Journaled (Minuted σ)) :
    let r := (Round.conduct link.minuted p.settings number messages).run (Round.start j)
    ∃ minutes, r.2.link.minutes = j.state.minutes ++ minutes
      ∧ Orderly p.settings ⟨messages, minutes, r.2.books, r.1⟩ := by
  intro r
  obtain ⟨minutes, hminutes, -, horderly⟩ := conduct_opens_orderly p link number messages j
  exact ⟨minutes, hminutes, horderly⟩

end Session

/-! ## Round after round -/

/-- Rounds that went well, one after another: the first one got `messages`, each later one what the
round before it had refused, and `rest` is what the last one left. -/
inductive Course (settings : Settings) (messages : List Message) :
    List Sitting → List Message → Prop
  | none : Course settings messages [] messages
  | more {earlier : List Sitting} {s : Sitting} {outcome : Outcome Message} :
    Course settings messages earlier s.messages → s.messages ≠ [] → Orderly settings s →
    s.result = .ok outcome → Course settings messages (earlier ++ [s]) outcome.rejected

theorem Course.eq_nil {settings : Settings} {sittings : List Sitting} {rest : List Message}
    (h : Course settings [] sittings rest) : sittings = [] ∧ rest = [] := by
  induction h with
  | none => exact ⟨rfl, rfl⟩
  | more _ hne _ _ ih => exact absurd ih.2 hne

theorem Course.orderly {settings : Settings} {messages : List Message} {sittings : List Sitting}
    {rest : List Message} (h : Course settings messages sittings rest) :
    ∀ s ∈ sittings, Orderly settings s := by
  induction h with
  | none => simp
  | more _ _ horderly _ ih =>
    intro s hs
    rcases List.mem_append.1 hs with hs | hs
    · exact ih s hs
    · rw [List.mem_singleton.1 hs]
      exact horderly

/-- The rounds of a call that came back with this result. -/
def Adjourns (settings : Settings) (messages : List Message) (sittings : List Sitting) :
    Option (Except Failure Report) → Prop
  | some (.ok report) => Course settings messages sittings [] ∧ sittings.length = report.rounds
  | some (.error e) => (∃ rest, Course settings messages sittings rest)
      ∨ ∃ earlier s, sittings = earlier ++ [s] ∧ Course settings messages earlier s.messages
        ∧ s.messages ≠ [] ∧ Orderly settings s ∧ s.result = .error e
  | none => ∃ rest, Course settings messages sittings rest

theorem Adjourns.eq_nil {settings : Settings} {sittings : List Sitting}
    {result : Option (Except Failure Report)} (h : Adjourns settings [] sittings result) :
    sittings = [] := by
  unfold Adjourns at h
  split at h
  · exact h.1.eq_nil.1
  · rcases h with ⟨_, h⟩ | ⟨_, _, _, h, hne, _⟩
    · exact h.eq_nil.1
    · exact absurd h.eq_nil.2 hne
  · exact h.choose_spec.eq_nil.1

theorem Adjourns.orderly {settings : Settings} {messages : List Message} {sittings : List Sitting}
    {result : Option (Except Failure Report)} (h : Adjourns settings messages sittings result) :
    ∀ s ∈ sittings, Orderly settings s := by
  unfold Adjourns at h
  split at h
  · exact h.1.orderly
  · rcases h with ⟨_, h⟩ | ⟨earlier, s, rfl, h, -, horderly, -⟩
    · exact h.orderly
    · exact List.forall_mem_append.2 ⟨h.orderly, List.forall_mem_singleton.2 horderly⟩
  · exact h.choose_spec.orderly

/-- Between two rounds the minutes are those of the rounds so far. -/
def Seated (settings : Settings) (messages : List Message) (report : Report)
    (pending : List Message) (m : Minuted σ) : Prop :=
  ∃ sittings, m.minutes = sittings.flatMap Sitting.minutes
    ∧ Course settings messages sittings pending ∧ sittings.length = report.rounds

def Dismissed (settings : Settings) (messages : List Message) (e : Failure) (m : Minuted σ) :
    Prop :=
  ∃ earlier s, m.minutes = (earlier ++ [s]).flatMap Sitting.minutes
    ∧ Course settings messages earlier s.messages ∧ s.messages ≠ [] ∧ Orderly settings s
    ∧ s.result = .error e

namespace Publisher

theorem conduct_seated (p : Publisher) (link : Link σ) {messages : List Message} (report : Report)
    (pending : List Message) (j : Journaled (Minuted σ)) (hne : pending ≠ [])
    (h : Seated p.settings messages report pending j.state) :
    Retry.EndsRound (Seated p.settings messages) (Dismissed p.settings messages) report
      (p.conduct link.minuted (report.rounds + 1) pending j).1
      (p.conduct link.minuted (report.rounds + 1) pending j).2.state := by
  obtain ⟨earlier, hearlier, hcourse, hcount⟩ := h
  have hround := conduct_orderly p link (report.rounds + 1) pending j
  unfold conduct
  generalize (Round.conduct link.minuted p.settings (report.rounds + 1) pending).run _ = out
    at hround ⊢
  obtain ⟨result, r⟩ := out
  obtain ⟨minutes, hminutes, horderly⟩ := hround
  let s : Sitting := ⟨pending, minutes, r.books, result⟩
  have hall : r.link.minutes = (earlier ++ [s]).flatMap Sitting.minutes := by
    simpa [hearlier, s] using hminutes
  cases result with
  | ok outcome =>
    refine ⟨_, hall, .more (s := s) hcourse hne horderly rfl, ?_⟩
    rw [List.length_append, hcount]
    rfl
  | error e => exact ⟨earlier, s, hall, hcourse, hne, horderly, rfl⟩

/-- The minutes of a call are those of its rounds. -/
theorem publishAll_adjourns (p : Publisher) (link : Link σ) (messages : List Message)
    (j : Journaled σ) :
    let r := p.publishAll link.minuted messages ⟨.start j.state, j.journal⟩
    ∃ sittings, r.2.state.minutes = sittings.flatMap Sitting.minutes
      ∧ Adjourns p.settings messages sittings r.1 := by
  intro r
  have hends : Retry.Ends (Seated p.settings messages) (Dismissed p.settings messages)
      r.1 r.2.state :=
    Retry.run_ends (p.conduct_seated link) (fun _ h => h) ⟨[], rfl, .none, rfl⟩
  generalize r.1 = result at hends ⊢
  unfold Retry.Ends at hends
  split at hends
  · obtain ⟨sittings, hminutes, hcourse, hcount⟩ := hends
    exact ⟨sittings, hminutes, hcourse, hcount⟩
  · rcases hends with ⟨earlier, s, hminutes, hend⟩ | ⟨_, pending, sittings, hminutes, hcourse, _⟩
    · exact ⟨_, hminutes, .inr ⟨earlier, s, rfl, hend⟩⟩
    · exact ⟨sittings, hminutes, .inl ⟨pending, hcourse⟩⟩
  · obtain ⟨_, pending, sittings, hminutes, hcourse, _⟩ := hends
    exact ⟨sittings, hminutes, pending, hcourse⟩

/-- Whatever the link does, a round keeps to the protocol, and the rounds of a call open their
sessions one after another, each when the one before it is closed. With nothing to send no session
is opened. To take minutes makes no difference, and they hold the very calls that are made. -/
theorem publishAll_orderly (p : Publisher) (link : Link σ) (messages : List Message)
    (j : Journaled σ) :
    (∀ number pending (m : Journaled (Minuted σ)),
      let r := (Round.conduct link.minuted p.settings number pending).run (Round.start m)
      r.1 = (p.conduct link number pending ⟨m.state.state, m.journal⟩).1
        ∧ r.2.link.state = (p.conduct link number pending ⟨m.state.state, m.journal⟩).2.state
        ∧ ∃ minutes, r.2.link.minutes = m.state.minutes ++ minutes
          ∧ Orderly p.settings ⟨pending, minutes, r.2.books, r.1⟩)
    ∧ let r := p.publishAll link.minuted messages ⟨.start j.state, j.journal⟩
      r.1 = (p.publishAll link messages j).1
        ∧ r.2.state.state = (p.publishAll link messages j).2.state
        ∧ (Minute.calls r.2.state.minutes).map Prod.fst
          = (p.publishAll link.traced messages ⟨.start j.state, j.journal⟩).2.state.calls
        ∧ ∃ sittings, r.2.state.minutes = sittings.flatMap Sitting.minutes
          ∧ Adjourns p.settings messages sittings r.1 ∧ (messages = [] → sittings = []) := by
  constructor
  · intro number pending m r
    have hplain := p.conduct_minuted link number pending m
    exact ⟨hplain.1, hplain.2, conduct_orderly p link number pending m⟩
  · intro r
    obtain ⟨hresult, hstate, hcalls⟩ := p.publishAll_minuted link messages j
    obtain ⟨sittings, hminutes, hadjourns⟩ := p.publishAll_adjourns link messages j
    exact ⟨hresult, hstate, hcalls, sittings, hminutes, hadjourns,
      fun hnil => (hnil ▸ hadjourns).eq_nil⟩

end Publisher

end ConfirmedDelivery
