import ConfirmedDelivery.Proofs.Order
import ConfirmedDelivery.Proofs.Round.Journal

/-!
# What a failed round leaves

A round that fails on an open session has recorded the first of its messages, and has sent them all
but perhaps the last one. Each of them is in one place: accepted, queued to be sent again, or still
in flight. How many are in flight is the last thing told to the journal (`conduct_leaves`).
-/

namespace ConfirmedDelivery

variable {σ : Type}

/-- A message was sent. -/
def isTransmit : Call × Ending → Bool
  | (.transmit .., _) => true
  | _ => false

/-- A message was sent and got the tag announced for it. -/
def getsThrough : Call × Ending → Bool
  | (.transmit .., .well) => true
  | _ => false

theorem isTransmit_of_getsThrough {c : Call × Ending} (h : getsThrough c = true) :
    isTransmit c = true := by
  unfold getsThrough at h
  split at h
  · rfl
  · exact absurd h Bool.false_ne_true

theorem length_parcels : ∀ calls : List (Call × Ending),
    ((moves calls).filterMap Move.parcel?).length = calls.countP isTransmit
  | [] => rfl
  | (c, e) :: calls => by
    have ih := length_parcels calls
    rw [List.countP_cons]
    cases c with
    | transmit announced destination properties body => exact congrArg (· + 1) ih
    | _ => exact ih

section Calls

variable {settings : Settings} {messages : List Message} {calls : List (Call × Ending)} {e : Failure}

/-- Where every call came back well, every message got through. -/
theorem Smooth.getsThrough (h : Smooth calls) :
    calls.countP getsThrough = calls.countP isTransmit := by
  refine List.countP_congr fun c hc => ⟨isTransmit_of_getsThrough, fun htransmit => ?_⟩
  obtain ⟨c, ending⟩ := c
  obtain rfl : ending = .well := h _ hc
  cases c with
  | transmit announced destination properties body => rfl
  | _ => exact absurd htransmit Bool.false_ne_true

/-- Nothing but the last call can have come back otherwise. -/
theorem Breaks.smooth (h : Breaks settings messages calls e) :
    ∃ before last, calls = before ++ last ∧ Smooth before ∧ last.length ≤ 1 := by
  cases e with
  | link fault =>
    obtain ⟨before, c, rfl, hsmooth⟩ := h
    exact ⟨before, _, rfl, hsmooth, Nat.le_refl 1⟩
  | tagMismatch expected assigned =>
    obtain ⟨before, destination, properties, body, rfl, hsmooth⟩ := h
    exact ⟨before, _, rfl, hsmooth, Nat.le_refl 1⟩
  | batchConfirmTimeout batch timeout =>
    obtain ⟨before, rfl, hsmooth⟩ := h
    exact ⟨before, _, rfl, hsmooth, Nat.le_refl 1⟩
  | duplicateTag tag => exact ⟨calls, [], (List.append_nil _).symm, h.1, Nat.zero_le 1⟩
  | confirmationTimeout outstanding timeout =>
    exact ⟨calls, [], (List.append_nil _).symm, h.1, Nat.zero_le 1⟩
  | _ => exact h.elim

theorem Breaks.countP_le (h : Breaks settings messages calls e) :
    calls.countP isTransmit ≤ calls.countP getsThrough + 1 := by
  obtain ⟨before, last, rfl, hsmooth, hlast⟩ := h.smooth
  have hle : last.countP isTransmit ≤ 1 := Nat.le_trans List.countP_le_length hlast
  rw [List.countP_append, List.countP_append, hsmooth.getsThrough]
  omega

end Calls

section Leaves

variable {settings : Settings} {messages : List Message} {minutes : List Minute}
  {b : Books Message}

/-- What became of the messages of a round of which these are the minutes and the books: the first
ones were recorded, and all of these were sent under the tags announced for them but perhaps the last.
Each is in one place, as its fate has it. -/
structure Leaves (messages : List Message) (minutes : List Minute) (b : Books Message)
    (rs : List (Recording Message)) : Prop where
  /-- What was recorded, and what became of it, is read off the minutes. -/
  recorded : rs = recordings ∅ 0 (postings messages (Minute.passages minutes))
  books : b = (∅ : Books Message).replay (postings messages (Minute.passages minutes))
  sent_le : (Minute.calls minutes).countP getsThrough ≤ rs.length
  le_sent : rs.length ≤ (Minute.calls minutes).countP getsThrough + 1
  first : rs.map Recording.item = messages.take rs.length
  somewhere : (rs.filter (Recording.settledAs .acked) ++ rs.filter (Recording.settledAs .nacked)
    ++ rs.filter Recording.undecided).Perm rs
  acked : b.acked = (rs.filter (Recording.settledAs .acked)).length
  nacked : b.nacked = (rs.filter (Recording.settledAs .nacked)).length
  rejected : b.rejected.Perm ((rs.filter (Recording.settledAs .nacked)).map Recording.item)
  inFlight : b.inFlight.entries.entries.Perm ((rs.filter Recording.undecided).map Recording.entry)

theorem fates_perm (rs : List (Recording Message)) :
    (rs.filter (Recording.settledAs .acked) ++ rs.filter (Recording.settledAs .nacked)
      ++ rs.filter Recording.undecided).Perm rs := by
  have hsettled : (rs.filter fun r => !r.undecided).filter (Recording.settledAs .acked)
        = rs.filter (Recording.settledAs .acked)
      ∧ (rs.filter fun r => !r.undecided).filter (Recording.settledAs .nacked)
        = rs.filter (Recording.settledAs .nacked) := by
    constructor <;> rw [List.filter_filter] <;> congr 1 <;> funext ⟨t, m, f⟩ <;> cases f <;> simp
      [Recording.settledAs, Recording.undecided]
  have hperm := @accepted_append_refused _ (rs.filter fun r => !r.undecided)
    fun r hr => by simpa using (List.mem_filter.1 hr).2
  rw [hsettled.1, hsettled.2] at hperm
  exact ((hperm.append_right _).trans List.perm_append_comm).trans
    (List.filter_append_perm Recording.undecided rs)

/-- A round that keeps to the protocol and fails on its open session leaves its messages so. -/
theorem Orderly.leaves {s : Sitting} (h : Orderly settings s) {e : Failure}
    (hfailed : s.result = .error e)
    (hopened : ∀ fault, Minute.calls s.minutes ≠ [(.openSession, .faulty fault)]) :
    ∃ rs, Leaves s.messages s.minutes s.books rs := by
  obtain ⟨history, hpassages, hitems, hunshared, hbooks⟩ := h.recorded
  rcases h.calls with ⟨fault, hcalls, -⟩ | ⟨calls, ending, hcalls, -, hfinishes⟩
  · exact absurd hcalls (hopened fault)
  rw [hfailed] at hfinishes
  have hpostings : postings s.messages (Minute.passages s.minutes) = history := by
    rw [hpassages, postings_erase_of_items hitems]
  have hrecorded : (recordings ∅ 0 history).map Recording.item
      = history.filterMap Posting.item? := by
    rw [← entry?_snd, ← Unshared.entries_recordings history ∅ 0 hunshared, List.map_map]
    rfl
  -- the session's calls are all that can have sent anything
  have hcount : ∀ f : Call × Ending → Bool, f (.openSession, .well) = false →
      f (.close, ending) = false → (Minute.calls s.minutes).countP f = calls.countP f := by
    intro f hopen hclose
    rw [hcalls, List.countP_append, List.countP_cons, List.countP_singleton, hopen, hclose]
    rfl
  have hlength : (recordings ∅ 0 history).length = calls.countP isTransmit := by
    have hparcels := congrArg List.length (parcels_passages s.minutes)
    rw [length_parcels, hcount _ rfl rfl, hpassages, parcels_erase, List.length_map,
      ← hrecorded, List.length_map] at hparcels
    exact hparcels
  obtain ⟨hinFlight, hacked, hnacked, ⟨queue, hperm, -, hrejected⟩, -, -⟩ :=
    first_answer_stands history
  rw [← hbooks] at hinFlight hacked hnacked hrejected
  refine ⟨recordings ∅ 0 history, ?_, ?_, ?_, ?_, ?_, fates_perm _, ?_, ?_, ?_, hinFlight⟩
  · rw [hpostings]
  · rw [hpostings, hbooks]
  · rw [hcount _ rfl rfl, hlength]
    exact List.countP_mono_left fun _ _ => isTransmit_of_getsThrough
  · rw [hcount _ rfl rfl, hlength]
    exact Breaks.countP_le hfinishes
  · rw [hrecorded]
    have hlen := congrArg List.length hrecorded
    rw [List.length_map] at hlen
    rw [hlen]
    exact List.prefix_iff_eq_take.1 hitems
  · rw [hacked, List.countP_eq_length_filter]
  · rw [hnacked, List.countP_eq_length_filter]
  · rw [hrejected]
    exact hperm.map _

end Leaves

namespace Publisher

/-- Whatever the link does, a round that fails once its session is open leaves each message that it
recorded in one place: these are the first messages, and at most the last of them was not sent under
the tag announced for it. With the last entry of its journal it tells how many are in flight, if any
are. To take minutes makes no difference to it. -/
theorem conduct_leaves (p : Publisher) (link : Link σ) (number : Nat) (messages : List Message)
    (j : Journaled σ) :
    let r := (Round.conduct link p.settings number messages).run (Round.start j)
    let m := (Round.conduct link.minuted p.settings number messages).run
      (Round.start ⟨.start j.state, j.journal⟩)
    m.1 = r.1 ∧ m.2.link.state = r.2.link ∧ m.2.books = r.2.books
      ∧ ∀ e, (link.openSession j.state).answer = .ok () → r.1 = .error e →
        (∃ rs, Leaves messages m.2.link.minutes r.2.books rs)
          ∧ ∃ told : List Event, (∀ e ∈ told, link.Passing e)
            ∧ r.2.journal.toList = j.journal.toList ++ told
              ++ if r.2.books.inFlight.size = 0 then []
                else [.abandoned number r.2.books.inFlight.size] := by
  intro r m
  obtain ⟨hresult, hstate, hbooks, -, -⟩ := Round.alike_conduct_round p.settings number
    (minuted_alike link) (show (⟨.start j.state, j.journal⟩ : Journaled (Minuted σ)).state.state
      = j.state from rfl) messages
  refine ⟨hresult, hstate, hbooks, fun e hopen hfailed => ⟨?_, ?_⟩⟩
  · obtain ⟨minutes, hminutes, hopened, horderly⟩ :=
      conduct_opens_orderly p link number messages ⟨.start j.state, j.journal⟩
    have hall : m.2.link.minutes = minutes := hminutes
    rw [hall, ← hbooks]
    exact horderly.leaves (hresult.trans hfailed) (hopened hopen)
  · exact Round.journal_conduct link p.settings number messages j hopen hfailed

/-- A link that numbers messages from one on. It accepts the first, refuses the second, says nothing
of the third and fails with the fourth. -/
def failing : Link Tag where
  openSession := .quiet (.ok ())
  listen := id
  enableConfirms := .quiet (.ok ())
  nextTag t := t + 1
  declare _ := .quiet (.ok ())
  transmit _ _ _ t :=
    if t = 3 then .quiet (.error (.connectionClosed "gone")) t
    else ⟨.ok (t + 1), [.ack 1 false, .nack 2 false], [], t + 1⟩
  awaitConfirms _ := .quiet (.ok true)
  lull _ := .timeUp []
  close := .quiet (.ok ())
  clock _ := .zero

theorem conduct_leaves_failing :
    let messages : List Message := [⟨1, "Hello", .empty, .empty⟩, ⟨2, "Hello", .empty, .empty⟩,
      ⟨3, "Hello", .empty, .empty⟩, ⟨4, "Hello", .empty, .empty⟩, ⟨5, "Hello", .empty, .empty⟩]
    let j : Journaled Tag := .start 0
    let r := (Round.conduct failing standard.settings 1 messages).run (Round.start j)
    let m := (Round.conduct failing.minuted standard.settings 1 messages).run
      (Round.start ⟨.start j.state, j.journal⟩)
    (Minute.calls m.2.link.minutes).countP getsThrough = 3
      ∧ (∃ rs, Leaves messages m.2.link.minutes r.2.books rs ∧ rs.length = 4)
      ∧ r.2.books.acked = 1 ∧ r.2.books.rejected.map Message.id = [2]
      ∧ r.2.books.inFlight.tags = [3, 4]
      ∧ ∃ told : List Event, r.2.journal.toList = told ++ [.abandoned 1 2] := by
  intro messages j
  have hleaves := conduct_leaves standard failing 1 messages j
  have hfailed : ((Round.conduct failing standard.settings 1 messages).run
      (Round.start j)).1.toOption.isNone = true := by decide +kernel
  have hbooks : ((Round.conduct failing standard.settings 1 messages).run
        (Round.start j)).2.books.acked = 1
      ∧ ((Round.conduct failing standard.settings 1 messages).run
        (Round.start j)).2.books.rejected.map Message.id = [2]
      ∧ ((Round.conduct failing standard.settings 1 messages).run
        (Round.start j)).2.books.inFlight.tags = [3, 4] := by decide +kernel
  have hminutes : (Minute.calls ((Round.conduct failing.minuted standard.settings 1 messages).run
        (Round.start ⟨.start j.state, j.journal⟩)).2.link.minutes).countP getsThrough = 3
      ∧ (recordings ∅ 0 (postings messages (Minute.passages
        ((Round.conduct failing.minuted standard.settings 1 messages).run
          (Round.start ⟨.start j.state, j.journal⟩)).2.link.minutes))).length = 4 := by
    decide +kernel
  generalize (Round.conduct failing standard.settings 1 messages).run (Round.start j) = r
    at hleaves hfailed hbooks ⊢
  generalize (Round.conduct failing.minuted standard.settings 1 messages).run
    (Round.start ⟨.start j.state, j.journal⟩) = m at hleaves hminutes ⊢
  obtain ⟨e | outcome, r⟩ := r
  · obtain ⟨-, -, -, hleaves⟩ := hleaves
    obtain ⟨⟨rs, hrs⟩, told, -, hjournal⟩ := hleaves e rfl rfl
    have hsize : r.books.inFlight.size = 2 := by
      have hlength := congrArg List.length hbooks.2.2
      rwa [InFlight.tags, Dict.keys, List.length_map] at hlength
    dsimp only at hjournal
    rw [hsize] at hjournal
    exact ⟨hminutes.1, ⟨rs, hrs, hrs.recorded ▸ hminutes.2⟩, hbooks.1, hbooks.2.1, hbooks.2.2,
      told, hjournal⟩
  · exact absurd hfailed Bool.false_ne_true

end Publisher

end ConfirmedDelivery
