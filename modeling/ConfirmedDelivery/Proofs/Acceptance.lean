import ConfirmedDelivery.Proofs.Publisher
import ConfirmedDelivery.Proofs.Transcript

/-!
# Success means acceptance

A call that comes back with a report has had every message accepted, whatever the link does. Its
rounds are known from the transcripts of their sessions (`chapters`): in each round every message is
recorded and sent once and is settled by some confirm, the refused ones make up the next round, and
after the last round none is left (`Accepted`). So each message is refused in every round it takes
part in but the last, and accepted there (`publishAll_accepts`).
-/

namespace ConfirmedDelivery

variable {σ : Type}

/-- A round as it was overheard: the messages that it set out to send, and the transcript of its
session. -/
structure Chapter where
  messages : List Message
  session : List Passage

namespace Chapter

/-- What happened to the books of the round. -/
def history (c : Chapter) : List (Posting Message) := postings c.messages c.session

/-- The messages that were recorded, and what became of them. -/
def recordings (c : Chapter) : List (Recording Message) :=
  ConfirmedDelivery.recordings ∅ 0 c.history

/-- The messages settled with this verdict. -/
def settled (v : Verdict) (c : Chapter) : List Message :=
  (c.recordings.filter (Recording.settledAs v)).map Recording.item

/-- What the round leaves for the next one, in the order of the queue. -/
def rejected (c : Chapter) : List Message := ((∅ : Books Message).replay c.history).rejected

end Chapter

/-- The rounds of a call that begins with these messages, by the transcripts of their sessions. -/
def chapters : List Message → List (List Passage) → List Chapter
  | _, [] => []
  | ms, session :: later =>
    ⟨ms, session⟩ :: chapters (Chapter.rejected ⟨ms, session⟩) later

/-- Rounds after which all of these messages are accepted: each round records and sends what is
left, each message once, settles all of it, and leaves what it refused. -/
inductive Accepted (parcel : Message → Parcel) : List Message → List Chapter → Prop where
  | nothing : Accepted parcel [] []
  | round {pending : List Message} {c : Chapter} {later : List Chapter} :
    pending ≠ [] → c.messages.Perm pending →
    c.session.filterMap Passage.parcel? = c.messages.map parcel →
    c.recordings.map Recording.item = c.messages →
    (∀ r ∈ c.recordings, r.undecided = false) →
    Accepted parcel (c.settled .nacked) later → Accepted parcel pending (c :: later)

namespace Accepted

variable {parcel : Message → Parcel}

theorem perm {pending pending' : List Message} {rounds : List Chapter}
    (h : Accepted parcel pending rounds) (hperm : pending.Perm pending') :
    Accepted parcel pending' rounds := by
  cases h with
  | nothing =>
    rw [List.nil_perm.1 hperm]
    exact .nothing
  | round hne hmessages hsent hitems hdecided hlater =>
    have hne' : pending' ≠ [] := fun hnil => hne (List.perm_nil.1 (hnil ▸ hperm))
    exact .round hne' (hmessages.trans hperm) hsent hitems hdecided hlater

/-- What the rounds accept is what they began with. -/
theorem flatMap_acked : ∀ {pending : List Message} {rounds : List Chapter},
    Accepted parcel pending rounds → (rounds.flatMap (Chapter.settled .acked)).Perm pending
  | _, _, .nothing => List.Perm.refl []
  | _, _, .round (c := c) _ hmessages _ hitems hdecided hlater => by
    have hsplit := (accepted_append_refused hdecided).map Recording.item
    rw [List.map_append, hitems] at hsplit
    rw [List.flatMap_cons]
    exact ((flatMap_acked hlater).append_left _).trans (hsplit.trans hmessages)

theorem eq_nil_iff {pending : List Message} {rounds : List Chapter}
    (h : Accepted parcel pending rounds) : rounds = [] ↔ pending = [] := by
  cases h with
  | nothing => simp
  | round hne => simp [hne]

end Accepted

/-- The session that was opened last is known by the history of the books: it recorded these
messages and nothing else, and it can be heard in the transcript. -/
def Following (parcel : Message → Parcel) (earlier : List (List Passage)) (done : List Message)
    (sessions : List (List Passage)) (b : Books Message) : Prop :=
  ∃ h : List (Posting Message), sessions = h.map (Posting.erase parcel) :: earlier
    ∧ b = (∅ : Books Message).replay h ∧ h.filterMap Posting.item? = done
    ∧ (recordings ∅ 0 h).map Recording.item = done

section Following

variable {parcel : Message → Parcel} {earlier : List (List Passage)} {done : List Message}
  {sessions : List (List Passage)} {b b' : Books Message}

theorem following_start (cs : List Confirm) :
    Following parcel earlier [] (cs.map .heard :: earlier) ∅ := by
  refine ⟨cs.map .answered, ?_, ?_, item?_answered cs, ?_⟩
  · rw [erase_answered]
  · rw [Books.replay_answered, Books.handleAll_empty]
  · rw [recordings_answered]
    rfl

theorem following_heard (h : Following parcel earlier done sessions b) (cs : List Confirm) :
    Following parcel earlier done (Overheard.more (cs.map .heard) sessions) (b.handleAll cs) := by
  obtain ⟨h, rfl, rfl, hitems, hrecorded⟩ := h
  refine ⟨h ++ cs.map .answered, ?_, ?_, ?_, ?_⟩
  · rw [List.map_append, erase_answered]
    rfl
  · rw [Books.replay_append, Books.replay_answered]
  · rw [List.filterMap_append, item?_answered, List.append_nil, hitems]
  · rw [items_recordings_append, recordings_answered, List.map_nil, List.append_nil, hrecorded]

theorem following_sent {t : Tag} {m : Message} (h : Following parcel earlier done sessions b)
    (hadd : b.add? t m = some b') :
    Following parcel earlier (done ++ [m]) (Overheard.more [.sent t (parcel m)] sessions) b' := by
  obtain ⟨h, rfl, rfl, hitems, hrecorded⟩ := h
  refine ⟨h ++ [.recorded t m], ?_, ?_, ?_, ?_⟩
  · rw [List.map_append]
    rfl
  · rw [Books.replay_append, Books.replay_of_recorded hadd]
    rfl
  · rw [List.filterMap_append, hitems]
    rfl
  · rw [items_recordings_append, hrecorded]
    simp only [recordings, hadd]
    rfl

end Following

theorem hear_ends {α : Type} {o : Overheard σ} {before : List Passage}
    {f : σ → Reply Confirm σ α} {b : Books Message} {ok : α → Overheard σ → Books Message → Prop}
    (hok : ∀ a, ok a (o.hear before f).state (b.handleAll (f o.state).events)) :
    (o.hear before f).Ends b ok fun _ _ _ => True := by
  unfold Reply.Ends
  split
  · exact hok _
  · trivial

theorem lull_follows {parcel : Message → Parcel} {earlier : List (List Passage)}
    {done : List Message} : ∀ (lull : Lull Confirm σ) {sessions : List (List Passage)}
    {b : Books Message}, Following parcel earlier done sessions b →
    (lull.overheard sessions).Keeps (fun o b => Following parcel earlier done o.sessions b)
      (fun _ _ => True) b
  | .timeUp _ _, _, _, _ => trivial
  | .stir events _ next, _, _, h =>
    ⟨following_heard h events, fun _ => lull_follows next (following_heard h events)⟩

/-- Over a link that is overheard a round keeps following the history of its books. -/
theorem upholds_following (link : Link σ) (settings : Settings) (messages : List Message)
    (o : Overheard σ) :
    Round.Upholds link.overheard settings messages (link.overheard.openSession o).state
      (fun done _ o' b => Following settings.parcel o.sessions done o'.sessions b)
      (fun _ _ _ _ => True) where
  enable := hear_ends fun _ => following_heard (following_start _) _
  declare _ h _ := hear_ends fun _ => following_heard h _
  duplicate _ _ _ := trivial
  transmit {done declared s b b' m} h hdone hd hadd := by
    refine hear_ends fun tag => ?_
    split_ifs
    have hsent := following_heard (following_sent h hadd)
      (link.transmit m.destination (m.properties settings.contentType settings.persistent)
        m.body s.state).events
    rw [← Overheard.more_append] at hsent
    exact hsent
  await _ h _ := hear_ends fun inTime => by
    split_ifs
    exact following_heard h _
  lull h _ := lull_follows _ h

/-- What is known of the chapter of a round that came to its end. -/
theorem chapter_of_following {parcel : Message → Parcel} {earlier sessions : List (List Passage)}
    {pending : List Message} {b : Books Message}
    (h : Following parcel earlier pending sessions b) (hnone : b.unanswered = []) :
    ∃ c : Chapter, sessions = c.session :: earlier ∧ c.messages = pending
      ∧ c.session.filterMap Passage.parcel? = c.messages.map parcel
      ∧ c.recordings.map Recording.item = c.messages ∧ (∀ r ∈ c.recordings, r.undecided = false)
      ∧ c.rejected = b.rejected ∧ (c.settled .nacked).Perm b.rejected
      ∧ (c.settled .acked).length = b.acked := by
  obtain ⟨h, rfl, rfl, hitems, hrecorded⟩ := h
  let c : Chapter := ⟨pending, h.map (Posting.erase parcel)⟩
  have hhistory : c.history = h := by
    change postings pending (h.map (Posting.erase parcel)) = h
    rw [← hitems, postings_erase]
  have hrecordings : c.recordings = recordings ∅ 0 h := by rw [Chapter.recordings, hhistory]
  obtain ⟨hunanswered, hacked, -, rs, hrs, -, hrejected⟩ := agrees h ∅ 0
  rw [account_empty] at hunanswered hacked hrs
  rw [hnone, List.nil_perm, List.map_eq_nil_iff, List.filter_eq_nil_iff] at hunanswered
  refine ⟨c, rfl, rfl, ?_, ?_, ?_, ?_, ?_, ?_⟩
  · rw [parcels_erase, hitems]
  · rw [hrecordings, hrecorded]
  · rw [hrecordings]
    exact fun r hr => by simpa using hunanswered r hr
  · rw [Chapter.rejected, hhistory]
  · rw [Chapter.settled, hrecordings, hrejected]
    exact (hrs.map _).symm
  · rw [Chapter.settled, hrecordings, List.length_map, hacked, List.countP_eq_length_filter,
      Books.acked_empty, Nat.zero_add]

/-- The rounds so far: whatever rounds follow, the transcripts of all of them tell of the rounds so
far first, and those so far leave it to them to get the pending messages accepted. -/
def Underway (parcel : Message → Parcel) (messages : List Message) (report : Report)
    (pending : List Message) (o : Overheard σ) : Prop :=
  ∃ rounds : List Chapter,
    (∀ later, chapters messages (o.sessions.reverse ++ later) = rounds ++ chapters pending later)
    ∧ (∀ later, Accepted parcel pending later → Accepted parcel messages (rounds ++ later))
    ∧ report.rounds = rounds.length ∧ report.published = report.confirmed + report.nacked
    ∧ report.confirmed + pending.length = messages.length

theorem underway_start (parcel : Message → Parcel) (messages : List Message) (s : σ) :
    Underway parcel messages Report.empty messages (Overheard.start s) :=
  ⟨[], fun _ => rfl, fun _ h => h, rfl, rfl, Nat.zero_add _⟩

theorem underway_round {parcel : Message → Parcel} {messages pending : List Message}
    {report : Report} {o : Overheard σ} {sessions : List (List Passage)} {b : Books Message} (s : σ)
    (h : Underway parcel messages report pending o) (hne : pending ≠ [])
    (hfollowing : Following parcel o.sessions pending sessions b) (hnone : b.unanswered = []) :
    Underway parcel messages (report.absorb ⟨pending.length, b.acked, b.rejected⟩) b.rejected
      ⟨s, sessions⟩ := by
  obtain ⟨rounds, hchapters, haccepted, hrounds, hpublished, hconfirmed⟩ := h
  obtain ⟨c, rfl, hmessages, hsent, hitems, hdecided, hrejected, hnacked, hacked⟩ :=
    chapter_of_following hfollowing hnone
  obtain ⟨cmessages, session⟩ := c
  obtain rfl : cmessages = pending := hmessages
  have hcount : b.acked + b.rejected.length = cmessages.length := by
    have hlen := ((accepted_append_refused hdecided).map Recording.item).length_eq
    rw [List.map_append, List.length_append, hitems] at hlen
    rw [← hacked, ← hnacked.length_eq]
    exact hlen
  refine ⟨rounds ++ [⟨cmessages, session⟩], fun later => ?_, fun later hlater => ?_, ?_, ?_, ?_⟩
  · have hsplit : (session :: o.sessions).reverse ++ later
        = o.sessions.reverse ++ session :: later := by simp
    rw [hsplit, hchapters, chapters, hrejected, List.append_assoc]
    rfl
  · rw [List.append_assoc]
    refine haccepted _ (.round hne (List.Perm.refl _) hsent hitems hdecided ?_)
    exact hlater.perm hnacked.symm
  · simp [Report.absorb, hrounds]
  · simp only [Report.absorb]
    omega
  · simp only [Report.absorb]
    omega

theorem current_of_following {parcel : Message → Parcel} {earlier : List (List Passage)}
    {done : List Message} {sessions : List (List Passage)} {b : Books Message}
    (h : Following parcel earlier done sessions b) : b.Current := by
  obtain ⟨h, -, rfl, -, -⟩ := h
  exact Books.current_replay h Books.current_empty

namespace Publisher

/-- A call on a link that is overheard from its beginning, and what was overheard at its end. -/
def overhear (p : Publisher) (link : Link σ) (messages : List Message) (j : Journaled σ) :
    Option (Except Failure Report) × Journaled (Overheard σ) :=
  p.publishAll link.overheard messages ⟨Overheard.start j.state, j.journal⟩

/-- The rounds of a call. -/
def chapters (p : Publisher) (link : Link σ) (messages : List Message) (j : Journaled σ) :
    List Chapter :=
  ConfirmedDelivery.chapters messages (p.overhear link messages j).2.state.sessions.reverse

variable (p : Publisher) (link : Link σ) (messages : List Message) (j : Journaled σ)

/-- Overhearing a call changes nothing about it. -/
theorem overhear_alike :
    (p.overhear link messages j).1 = (p.publishAll link messages j).1
      ∧ (p.overhear link messages j).2.state.state = (p.publishAll link messages j).2.state :=
  p.publishAll_alike (overheard_alike link) rfl messages

theorem overhear_ends :
    Retry.Ends (Underway p.settings.parcel messages) (fun _ _ => True)
      (p.overhear link messages j).1 (p.overhear link messages j).2.state := by
  refine p.publishAll_ends (fun report pending o hne h => ?_) (fun _ h => h)
    (underway_start _ _ _)
  refine ⟨_, _, fun _ => upholds_following link p.settings pending o, fun result o' hends => ?_⟩
  cases result with
  | error e => trivial
  | ok outcome =>
    obtain ⟨declared, s, b, hfollowing, hdrained, -, rfl, rfl⟩ := hends
    have hnone := (Books.drained_iff (current_of_following hfollowing)).1 hdrained
    have hclosed := following_heard hfollowing (link.close s.state).events
    rw [Books.handleAll_of_unanswered_nil hnone] at hclosed ⊢
    exact underway_round _ h hne hclosed hnone

/-- Whatever the link does, a call that comes back with a report has had every message accepted: in
its last round and once; in every earlier round it was refused. And the report tells so. -/
theorem publishAll_accepts {report : Report}
    (h : (p.publishAll link messages j).1 = some (.ok report)) :
    let rounds := p.chapters link messages j
    (p.overhear link messages j).1 = some (.ok report)
      ∧ Accepted p.settings.parcel messages rounds
      ∧ (rounds.flatMap (Chapter.settled .acked)).Perm messages
      ∧ report.confirmed = messages.length ∧ report.published = messages.length + report.nacked
      ∧ report.rounds = rounds.length ∧ (report.rounds = 0 ↔ messages.length = 0) := by
  have hends := p.overhear_ends link messages j
  have hsame := (p.overhear_alike link messages j).1.trans h
  rw [hsame] at hends
  obtain ⟨rounds, hchapters, haccepted, hrounds, hpublished, hconfirmed⟩ := hends
  have hall : p.chapters link messages j = rounds := by
    have := hchapters []
    rwa [List.append_nil, ConfirmedDelivery.chapters, List.append_nil] at this
  have hacc := haccepted [] .nothing
  rw [List.append_nil] at hacc
  rw [hall]
  refine ⟨hsame, hacc, hacc.flatMap_acked, hconfirmed, ?_, hrounds, ?_⟩
  · rw [← hconfirmed]
    exact hpublished
  · rw [hrounds, List.length_eq_zero_iff, List.length_eq_zero_iff, hacc.eq_nil_iff]

/-- A link that gives all messages one tag and answers for each at once and more than once, refuses
what is sent on its first session, and cannot be closed. -/
def capricious : Link Nat where
  openSession n := ⟨.ok (), [.ack 3 true], [], n + 1⟩
  listen := id
  enableConfirms := .quiet (.ok ())
  nextTag _ := 9
  declare _ := .quiet (.ok ())
  transmit _ _ _ n :=
    ⟨.ok 9, [if n = 1 then .nack 12 true else .ack 9 false, .ack 9 false, .nack 0 true], [], n⟩
  awaitConfirms _ := .quiet (.ok true)
  lull _ := .timeUp []
  close := .quiet (.error .sessionClosed)
  clock _ := .zero

theorem publishAll_accepts_capricious :
    let messages : List Message := [⟨1, "Hello", .empty, .empty⟩, ⟨2, "GoodBye", .empty, .empty⟩]
    (standard.publishAll capricious messages (.start 0)).1 = some (.ok ⟨4, 2, 2, 2, .zero⟩)
      ∧ Accepted standard.settings.parcel messages
          (standard.chapters capricious messages (.start 0))
      ∧ (standard.chapters capricious messages (.start 0)).length = 2 := by
  intro messages
  have hreport : (standard.publishAll capricious messages (.start 0)).1
      = some (.ok ⟨4, 2, 2, 2, .zero⟩) := eq_of_reported (by decide +kernel)
  obtain ⟨-, haccepted, -, -, -, hrounds, -⟩ :=
    publishAll_accepts standard capricious messages (.start 0) hreport
  exact ⟨hreport, haccepted, hrounds.symm⟩

end Publisher

end ConfirmedDelivery
