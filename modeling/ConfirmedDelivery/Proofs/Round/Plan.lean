import ConfirmedDelivery.Proofs.Round.Steps

/-!
# The plan of a round

Which calls a round is going to make on its session is known beforehand (`plan`): it sends batch
after batch, declares each destination before its first message, and waits after each batch, unless
it is streaming. A round carries out its plan from the beginning. What is true of it between the
steps, of how far it is carried out, of the number of messages sent since the round last waited, of
the messages sent, the destinations declared, the link and the books, is so at the end of the plan if
every call and every recording keeps it (`Planned`, `leads_drive`).
-/

namespace ConfirmedDelivery

variable {σ α : Type}

/-- What a round does by a call on its session. -/
inductive Move where
  | openSession
  | listen
  | enableConfirms
  | declare (destination : String)
  | transmit (parcel : Parcel)
  | awaitConfirms (timeout : Span)
  | close

section Plan

variable (settings : Settings)

/-- A destination is declared unless it was declared before. -/
def declaring (declared : List String) (destination : String) : List Move :=
  if destination ∈ declared then [] else [.declare destination]

def sending (declared : List String) (m : Message) : List Move :=
  declaring declared m.destination ++ [.transmit (settings.parcel m)]

def sendings : List String → List Message → List Move
  | _, [] => []
  | declared, m :: rest =>
    sending settings declared m ++ sendings (declared.insert m.destination) rest

/-- The destinations that are declared when these messages are sent too. -/
def declaredAfter (declared : List String) (ms : List Message) : List String :=
  ms.foldl (fun ds m => ds.insert m.destination) declared

def waiting : List Move :=
  if settings.pacing ≠ .streaming then [.awaitConfirms settings.batchConfirmTimeout] else []

def batchMoves : List String → List (List Message) → List Move
  | _, [] => []
  | declared, ms :: rest =>
    sendings settings declared ms ++ waiting settings ++ batchMoves (declaredAfter declared ms) rest

/-- What a round is to do between opening its session and closing it. -/
def plan (messages : List Message) : List Move :=
  .listen :: .enableConfirms :: batchMoves settings [] (chunks settings.chunkSize messages)

end Plan

theorem flatten_chunksFrom {n : Nat} (hn : 0 < n) :
    ∀ (fuel : Nat) (l : List α), l.length ≤ fuel → (chunksFrom n fuel l).flatten = l
  | fuel, [], _ => by cases fuel <;> rfl
  | 0, _ :: _, h => by simp at h
  | fuel + 1, a :: l, h => by
    have hlen : ((a :: l).drop n).length ≤ fuel := by
      simp only [List.length_drop, List.length_cons] at h ⊢
      omega
    rw [chunksFrom, List.flatten_cons, flatten_chunksFrom hn fuel _ hlen, List.take_append_drop]
    simp

theorem flatten_chunks {n : Nat} (hn : 0 < n) (l : List α) : (chunks n l).flatten = l :=
  flatten_chunksFrom hn l.length l (Nat.le_refl _)

theorem chunks_ne_nil {n : Nat} (hn : 0 < n) {l : List α} (hl : l ≠ []) : chunks n l ≠ [] := fun h =>
  hl ((flatten_chunks hn l).symm.trans (congrArg List.flatten h))

theorem ne_nil_of_mem_chunksFrom {n : Nat} (hn : 0 < n) :
    ∀ {fuel : Nat} {l : List α}, ∀ c ∈ chunksFrom n fuel l, c ≠ []
  | 0, [], _, h => absurd h List.not_mem_nil
  | _ + 1, [], _, h => absurd h List.not_mem_nil
  | 0, _ :: _, _, h => absurd h List.not_mem_nil
  | _ + 1, a :: l, c, h => by
    rcases List.mem_cons.1 h with rfl | h
    · exact fun hnil => (List.take_eq_nil_iff.1 hnil).elim (Nat.ne_of_gt hn) (List.cons_ne_nil a l)
    · exact ne_nil_of_mem_chunksFrom hn c h

theorem ne_nil_of_mem_chunks {n : Nat} (hn : 0 < n) {l : List α} : ∀ c ∈ chunks n l, c ≠ [] :=
  ne_nil_of_mem_chunksFrom hn

theorem chunksFrom_succ (n fuel : Nat) {l : List α} (hl : l ≠ []) :
    chunksFrom n (fuel + 1) l = l.take n :: chunksFrom n fuel (l.drop n) := by
  cases l with
  | nil => exact absurd rfl hl
  | cons a l => rfl

section Parcels

def Move.parcel? : Move → Option Parcel
  | .transmit parcel => some parcel
  | _ => none

variable (settings : Settings)

theorem parcels_declaring (declared : List String) (destination : String) :
    (declaring declared destination).filterMap Move.parcel? = [] := by
  unfold declaring
  split_ifs <;> rfl

theorem parcels_waiting : (waiting settings).filterMap Move.parcel? = [] := by
  unfold waiting
  split_ifs <;> rfl

theorem parcels_sendings : ∀ (ms : List Message) (declared : List String),
    (sendings settings declared ms).filterMap Move.parcel? = ms.map settings.parcel
  | [], _ => rfl
  | m :: rest, declared => by
    rw [sendings, sending, List.filterMap_append, List.filterMap_append, parcels_declaring,
      parcels_sendings rest]
    rfl

theorem parcels_batchMoves : ∀ (batches : List (List Message)) (declared : List String),
    (batchMoves settings declared batches).filterMap Move.parcel?
      = batches.flatten.map settings.parcel
  | [], _ => rfl
  | ms :: rest, declared => by
    rw [batchMoves, List.filterMap_append, List.filterMap_append, parcels_sendings,
      parcels_waiting, parcels_batchMoves rest, List.append_nil, List.flatten_cons, List.map_append]

/-- The plan is to send each message once, in order. -/
theorem parcels_plan (hsize : 0 < settings.chunkSize) (messages : List Message) :
    (plan settings messages).filterMap Move.parcel? = messages.map settings.parcel := by
  have hbatches := parcels_batchMoves settings (chunks settings.chunkSize messages) []
  rwa [flatten_chunks hsize] at hbatches

end Parcels

theorem prefix_of_append {l k p : List α} (h : l ++ k <+: p) : l <+: p :=
  (List.prefix_append l k).trans h

namespace Round

open RoundM

variable (link : Link σ) (settings : Settings)

/-- Batch number `i`, counted from zero, is sent: it has `k` messages, and all before it are sent. -/
structure AtBatch (size : Nat) (messages : List Message) (i k : Nat) (done : List Message) : Prop where
  sent : done = messages.take ((i + 1) * size)
  since : done.length = i * size + k

/-- What a round keeps that sends `messages` on a session opened in the state `s₀`: as long as
nothing fails `during` holds between the steps, and `failed` holds of the failure, the messages
recorded, the link and the books once something failed. A call is made only when it is next in the
plan. -/
structure Planned (messages : List Message) (s₀ : σ)
    (during : Nat → List Move → List Message → List String → σ → Books Message → Prop)
    (failed : Failure → List Message → σ → Books Message → Prop) : Prop where
  enable : (link.enableConfirms (link.listen s₀)).Ends ∅
    (fun _ => during 0 [.listen, .enableConfirms] [] []) (fun fault => failed (.link fault) [])
  declare : ∀ {k moves done declared s b} (destination : String),
    during k moves done declared s b → destination ∉ declared →
    moves ++ [.declare destination] <+: plan settings messages →
    (link.declare destination s).Ends b
      (fun _ => during k (moves ++ [.declare destination]) done (destination :: declared))
      (fun fault => failed (.link fault) done)
  duplicate : ∀ {k moves done declared s b m}, during k moves done declared s b →
    done ++ [m] <+: messages → moves ++ [.transmit (settings.parcel m)] <+: plan settings messages →
    b.add? (link.nextTag s) m = none → failed (.duplicateTag (link.nextTag s)) done s b
  transmit : ∀ {k moves done declared s b b' m}, during k moves done declared s b →
    done ++ [m] <+: messages → moves ++ [.transmit (settings.parcel m)] <+: plan settings messages →
    (settings.pacing ≠ .streaming → k < settings.chunkSize) →
    m.destination ∈ declared → b.add? (link.nextTag s) m = some b' →
    (link.transmit m.destination (m.properties settings.contentType settings.persistent)
        m.body s).Ends b'
      (fun tag s' b => if tag = link.nextTag s
        then during (k + 1) (moves ++ [.transmit (settings.parcel m)]) (done ++ [m]) declared s' b
        else failed (.tagMismatch (link.nextTag s) tag) (done ++ [m]) s' b)
      (fun fault => failed (.link fault) (done ++ [m]))
  await : ∀ {k moves done declared s b} (i : Nat), during k moves done declared s b →
    settings.pacing ≠ .streaming → AtBatch settings.chunkSize messages i k done →
    moves ++ [.awaitConfirms settings.batchConfirmTimeout] <+: plan settings messages →
    (link.awaitConfirms settings.batchConfirmTimeout s).Ends b
      (fun inTime s b => if inTime
        then during 0 (moves ++ [.awaitConfirms settings.batchConfirmTimeout]) done declared s b
        else failed (.batchConfirmTimeout (i + 1) settings.batchConfirmTimeout) done s b)
      (fun fault => failed (.link fault) done)
  lull : ∀ {k declared s b}, during k (plan settings messages) messages declared s b →
    (settings.pacing ≠ .streaming → k = 0) → b.inFlight.drained = false →
    (link.lull settings.timeout s).Keeps
      (fun s b => b.inFlight.drained = true → during k (plan settings messages) messages declared s b)
      (fun s b => failed (.confirmationTimeout b.inFlight.size settings.timeout) messages s b) b

/-- Between two batches: the round has waited, unless it is streaming. -/
def Rested (during : Nat → List Move → List Message → List String → σ → Books Message → Prop)
    (moves : List Move) (done : List Message) (declared : List String) (s : σ) (b : Books Message) :
    Prop :=
  ∃ k, (settings.pacing ≠ .streaming → k = 0) ∧ during k moves done declared s b

variable {link settings} {messages : List Message} {s₀ : σ}
  {failed : Failure → List Message → σ → Books Message → Prop}

/-- A round between two steps: the plan is carried out so far, these messages having been sent and
these destinations declared. -/
structure Stage (during : List Move → List Message → List String → σ → Books Message → Prop)
    (moves : List Move) (done : List Message) (declared : List String) (r : Round σ) : Prop where
  holds : during moves done declared r.link r.books
  declared : r.declared = declared
  count : r.sent = done.length

def Broken (messages : List Message) (failed : Failure → List Message → σ → Books Message → Prop)
    (e : Failure) (r : Round σ) : Prop :=
  ∃ done, done <+: messages ∧ failed e done r.link r.books

section Steps

variable {during : Nat → List Move → List Message → List String → σ → Books Message → Prop}
  (h : Planned link settings messages s₀ during failed) {k : Nat} {moves : List Move}
  {done : List Message} {declared : List String} {r : Round σ}

include h

theorem leads_ensureDeclared (hr : Stage (during k) moves done declared r)
    (hdone : done <+: messages) (d : String)
    (hplan : moves ++ declaring declared d <+: plan settings messages) :
    Leads (ensureDeclared link d) r
      (fun _ => Stage (during k) (moves ++ declaring declared d) done (declared.insert d))
      (Broken messages failed) := by
  obtain ⟨hduring, rfl, hcount⟩ := hr
  unfold ensureDeclared declaring at *
  simp only [leads_bind, leads_get, leads_ite, leads_pure, leads_modify, List.contains_iff_mem]
  constructor
  · intro hd
    rw [if_pos hd, List.append_nil, List.insert_of_mem hd]
    exact ⟨hduring, rfl, hcount⟩
  · intro hd
    rw [if_neg hd] at hplan ⊢
    rw [List.insert_of_not_mem hd]
    exact leads_call ((h.declare d hduring hd hplan).imp
      (fun _ _ _ hduring _ => ⟨hduring, rfl, hcount⟩) fun _ _ _ hfailed _ => ⟨done, hdone, hfailed⟩)

theorem leads_sendOne {m : Message} (hr : Stage (during k) moves done declared r)
    (hk : settings.pacing ≠ .streaming → k < settings.chunkSize) (hdone : done ++ [m] <+: messages)
    (hplan : moves ++ sending settings declared m <+: plan settings messages) :
    Leads (sendOne link settings m) r
      (fun _ => Stage (during (k + 1)) (moves ++ sending settings declared m) (done ++ [m])
        (declared.insert m.destination))
      (Broken messages failed) := by
  unfold sendOne sending at *
  rw [← List.append_assoc] at hplan ⊢
  simp only [leads_bind]
  refine (leads_ensureDeclared h hr (prefix_of_append hdone) m.destination
    (prefix_of_append hplan)).imp ?_ fun _ _ hbroken => hbroken
  rintro - r ⟨hduring, hdeclared, hcount⟩
  unfold recordNext
  simp only [leads_bind, leads_get]
  rcases hadd : r.books.add? (link.nextTag r.link) m with _ | b'
  · exact ⟨done, prefix_of_append hdone, h.duplicate hduring hdone hplan hadd⟩
  simp only [leads_bind, leads_set, leads_pure]
  have hends := h.transmit hduring hdone hplan hk List.mem_insert_self hadd
  refine leads_call (hends.imp (fun tag s b hends journal => ?_)
    fun _ _ _ hfailed _ => ⟨_, hdone, hfailed⟩)
  simp only [leads_ite, leads_bind, leads_throw, leads_modify, leads_get, leads_note]
  split_ifs at hends with htag
  · exact ⟨fun hne => absurd htag hne, fun _ => ⟨hends, hdeclared, by simp [hcount]⟩⟩
  · exact ⟨fun _ => ⟨_, hdone, hends⟩, fun hne => absurd htag hne⟩

theorem leads_sendAll : ∀ (ms : List Message) {k : Nat} {moves : List Move} {done : List Message}
    {declared : List String} {r : Round σ}, Stage (during k) moves done declared r →
    (settings.pacing ≠ .streaming → k + ms.length ≤ settings.chunkSize) → done ++ ms <+: messages →
    moves ++ sendings settings declared ms <+: plan settings messages →
    Leads (sendAll link settings ms) r
      (fun _ => Stage (during (k + ms.length)) (moves ++ sendings settings declared ms) (done ++ ms)
        (declaredAfter declared ms))
      (Broken messages failed)
  | [], k, moves, done, _, r, hr, _, _, _ => by
    rw [sendings, List.append_nil, List.append_nil]
    exact hr
  | m :: rest, k, moves, done, declared, r, hr, hk, hdone, hplan => by
    have hlen : k + (m :: rest).length = k + 1 + rest.length := by
      rw [List.length_cons]
      omega
    rw [hlen] at hk ⊢
    rw [List.append_cons] at hdone ⊢
    rw [sendings, ← List.append_assoc] at hplan ⊢
    unfold sendAll
    rw [leads_bind]
    have hroom : settings.pacing ≠ .streaming → k < settings.chunkSize := fun hpacing => by
      have := hk hpacing
      omega
    refine (leads_sendOne h hr hroom (prefix_of_append hdone) (prefix_of_append hplan)).imp
      (fun _ r hr => ?_) fun _ _ hbroken => hbroken
    exact leads_sendAll rest hr hk hdone hplan

theorem leads_awaitBatch (hr : Stage (during k) moves done declared r) (hdone : done <+: messages)
    (hpacing : settings.pacing ≠ .streaming) (number : Nat) {i : Nat}
    (hbatch : AtBatch settings.chunkSize messages i k done)
    (hplan : moves ++ [.awaitConfirms settings.batchConfirmTimeout] <+: plan settings messages) :
    Leads (awaitBatch link settings number (i + 1)) r
      (fun _ => Stage (during 0) (moves ++ [.awaitConfirms settings.batchConfirmTimeout]) done
        declared)
      (Broken messages failed) := by
  obtain ⟨hduring, hdeclared, hcount⟩ := hr
  unfold awaitBatch
  rw [leads_bind]
  refine leads_call ((h.await i hduring hpacing hbatch hplan).imp
    (fun inTime s b hends journal => ?_) fun _ _ _ hfailed _ => ⟨done, hdone, hfailed⟩)
  simp only [leads_ite, leads_pure, leads_bind, leads_get, leads_note, leads_throw]
  split_ifs at hends with hintime
  · exact ⟨fun _ => ⟨hends, hdeclared, hcount⟩, fun hlate => absurd hintime hlate⟩
  · exact ⟨fun htrue => absurd htrue hintime, fun _ => ⟨done, hdone, hends⟩⟩

/-- The batches after the first `i` ones, in messages of which all before them are sent. -/
theorem leads_sendBatches (hsize : 0 < settings.chunkSize) (number : Nat) :
    ∀ (fuel i : Nat) {moves : List Move} {declared : List String} {r : Round σ},
    (messages.drop (i * settings.chunkSize)).length ≤ fuel →
    Stage (Rested settings during) moves (messages.take (i * settings.chunkSize)) declared r →
    moves ++ batchMoves settings declared
      (chunksFrom settings.chunkSize fuel (messages.drop (i * settings.chunkSize)))
        <+: plan settings messages →
    Leads (sendBatches link settings number (i + 1)
        (chunksFrom settings.chunkSize fuel (messages.drop (i * settings.chunkSize)))) r
      (fun _ r => ∃ declared', Stage (Rested settings during) (moves ++ batchMoves settings declared
          (chunksFrom settings.chunkSize fuel (messages.drop (i * settings.chunkSize))))
        messages declared' r)
      (Broken messages failed) := by
  intro fuel
  induction fuel with
  | zero =>
    intro i moves declared r hfuel hr _
    have hnone := List.length_eq_zero_iff.1 (Nat.le_zero.1 hfuel)
    rw [hnone, chunksFrom, batchMoves, List.append_nil]
    rw [List.take_of_length_le (List.drop_eq_nil_iff.1 hnone)] at hr
    exact ⟨declared, hr⟩
  | succ fuel ih =>
    intro i moves declared r hfuel hr hplan
    by_cases hnone : messages.drop (i * settings.chunkSize) = []
    · rw [hnone, chunksFrom, batchMoves, List.append_nil]
      rw [List.take_of_length_le (List.drop_eq_nil_iff.1 hnone)] at hr
      exact ⟨declared, hr⟩
    have hlt : i * settings.chunkSize < messages.length :=
      Nat.lt_of_not_le fun hle => hnone (List.drop_eq_nil_iff.2 hle)
    have hnext : i * settings.chunkSize + settings.chunkSize = (i + 1) * settings.chunkSize :=
      (Nat.succ_mul ..).symm
    rw [chunksFrom_succ _ _ hnone, List.drop_drop, hnext] at hplan ⊢
    let ms := (messages.drop (i * settings.chunkSize)).take settings.chunkSize
    have hdone : messages.take (i * settings.chunkSize) ++ ms
        = messages.take ((i + 1) * settings.chunkSize) := by
      rw [← hnext, List.take_add]
    obtain ⟨⟨k, hk, hduring⟩, hdeclared, hcount⟩ := hr
    rw [batchMoves, ← List.append_assoc, ← List.append_assoc] at hplan ⊢
    have hroom : settings.pacing ≠ .streaming → k + ms.length ≤ settings.chunkSize :=
      fun hpacing => by rw [hk hpacing, Nat.zero_add]; exact List.length_take_le ..
    have hwaiting := prefix_of_append hplan
    have hfuel' : (messages.drop ((i + 1) * settings.chunkSize)).length ≤ fuel := by
      rw [List.length_drop] at hfuel ⊢
      omega
    unfold sendBatches
    simp only [leads_bind, leads_ite]
    have hsend := leads_sendAll h ms ⟨hduring, hdeclared, hcount⟩ hroom
      (by rw [hdone]; exact List.take_prefix ..) (prefix_of_append hwaiting)
    rw [hdone] at hsend
    refine hsend.imp (fun _ r hr => ⟨fun hpacing => ?_, fun hpacing => ?_⟩) fun _ _ hbroken => hbroken
    · have hbatch : AtBatch settings.chunkSize messages i (k + ms.length)
          (messages.take ((i + 1) * settings.chunkSize)) := by
        refine ⟨rfl, ?_⟩
        rw [← hdone, hk hpacing, List.length_append, List.length_take_of_le (Nat.le_of_lt hlt),
          Nat.zero_add]
      rw [waiting, if_pos hpacing] at hplan hwaiting ⊢
      refine (leads_awaitBatch h hr (List.take_prefix ..) hpacing number hbatch hwaiting).imp
        (fun _ r hr => ?_) fun _ _ hbroken => hbroken
      exact ih (i + 1) hfuel' ⟨⟨0, fun _ => rfl, hr.holds⟩, hr.declared, hr.count⟩ hplan
    · rw [waiting, if_neg hpacing, List.append_nil] at hplan ⊢
      exact ih (i + 1) hfuel' ⟨⟨_, fun hpaced => absurd hpaced hpacing, hr.holds⟩, hr.declared, hr.count⟩
        hplan

omit h in
/-- A watched lull ends as it keeps the books: in time with nothing in flight, or late. -/
theorem watch_keeps {during late : σ → Books Message → Prop} :
    ∀ (lull : Lull Confirm σ) (r : Round σ), lull.Keeps during late r.books →
      ∃ inTime s journal b,
        lull.watch absorb drained r = (inTime, ⟨s, journal, b, r.declared, r.sent⟩)
          ∧ if inTime then during s b ∧ b.inFlight.drained = true else late s b
  | .timeUp events s, r, hlate => by
    refine ⟨false, s, (r.absorb events s).journal, r.books.handleAll events, ?_, hlate⟩
    rw [Lull.watch]
    congr 1
    rw [eq_of_parts (r.absorb events s)]
    simp
  | .stir events s next, r, ⟨hduring, hnext⟩ => by
    rw [Lull.watch]
    cases hdrained : drained (absorb r events s) with
    | true =>
      refine ⟨true, s, (r.absorb events s).journal, r.books.handleAll events, ?_, ?_⟩
      · rw [if_pos rfl, eq_of_parts (r.absorb events s)]
        simp
      · simpa [drained] using And.intro hduring hdrained
    | false =>
      have hnext := hnext (by simpa [drained] using hdrained)
      obtain ⟨inTime, s', journal, b, heq, hend⟩ :=
        watch_keeps next (absorb r events s) (by simpa using hnext)
      refine ⟨inTime, s', journal, b, ?_, hend⟩
      simpa using heq

/-- The end of a round that went well: the plan is carried out and nothing is left in flight. -/
theorem leads_drain
    (hr : Stage (Rested settings during) (plan settings messages) messages declared r)
    (number : Nat) :
    Leads (drain link settings number) r
      (fun _ r => Stage (Rested settings during) (plan settings messages) messages declared r
        ∧ r.drained = true)
      (Broken messages failed) := by
  unfold drain
  simp only [leads_bind, leads_get, leads_ite, leads_pure, leads_set]
  refine ⟨fun hdrained => ⟨hr, hdrained⟩, fun hdrained => ?_⟩
  obtain ⟨k, hk, hduring⟩ := hr.holds
  have hlull := h.lull hduring hk (by simpa [drained] using hdrained)
  obtain ⟨inTime, s, journal, b, heq, hend⟩ := watch_keeps _ r hlull
  rw [heq]
  split_ifs at hend with hintime
  · exact ⟨fun _ => ⟨⟨⟨k, hk, hend.1 hend.2⟩, hr.declared, hr.count⟩, hend.2⟩,
      fun hlate => absurd hintime hlate⟩
  · exact ⟨fun htrue => absurd htrue hintime, fun _ => ⟨messages, List.prefix_refl _, hend⟩⟩

theorem leads_drive (hsize : 0 < settings.chunkSize) (hlink : r.link = s₀) (hbooks : r.books = ∅)
    (hdeclared : r.declared = []) (hsent : r.sent = 0) (number : Nat) :
    Leads (drive link settings number messages) r
      (fun _ r => ∃ declared,
        Stage (Rested settings during) (plan settings messages) messages declared r
          ∧ r.drained = true)
      (Broken messages failed) := by
  unfold drive
  simp only [leads_bind, leads_modify, leads_get, leads_note]
  have hends := h.enable
  rw [← hlink, ← hbooks] at hends
  refine leads_call (hends.imp (fun _ s b hduring journal => ?_)
    fun _ _ _ hfailed _ => ⟨[], List.nil_prefix, hfailed⟩)
  have hbegin : Stage (Rested settings during) [.listen, .enableConfirms]
      (messages.take (0 * settings.chunkSize)) []
      ⟨s, journal.push (.confirming number (link.nextTag s)), b, [], 0⟩ := by
    rw [Nat.zero_mul]
    exact ⟨⟨0, fun _ => rfl, hduring⟩, rfl, rfl⟩
  have hbatches := leads_sendBatches h hsize number messages.length 0
    (by rw [List.length_drop]; exact Nat.sub_le ..) hbegin
  rw [Nat.zero_mul, List.drop_zero] at hbatches
  replace hbatches := hbatches (List.prefix_refl _)
  simp only [hdeclared, hsent]
  refine hbatches.imp (fun _ r ⟨declared, hr⟩ => ?_) fun _ _ hbroken => hbroken
  exact (leads_drain h hr number).imp (fun _ _ hr => ⟨declared, hr⟩) fun _ _ hbroken => hbroken

end Steps

end Round

end ConfirmedDelivery
