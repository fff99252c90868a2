import ConfirmedDelivery.Proofs.History
import ConfirmedDelivery.Proofs.Round.Alike

/-!
# Transcripts

A link can be overheard (`Link.overheard`): for each session it is written down what was sent,
under which announced tags, and which confirms were handed over, all in the order in which it came.
The link itself answers as before (`overheard_alike`). With the messages that a round set out to
send, the transcript of its session is the history of its books (`postings_erase`).
-/

namespace ConfirmedDelivery

variable {σ α : Type}

/-- What is overheard of a session: something was sent under the tag announced for it, or a confirm
was handed over. -/
inductive Passage where
  | sent (announced : Tag) (parcel : Parcel)
  | heard (confirm : Confirm)

/-- What was sent. -/
def Passage.parcel? : Passage → Option Parcel
  | .sent _ parcel => some parcel
  | .heard _ => none

/-- The tag that was announced for what was sent. -/
def Passage.tag? : Passage → Option Tag
  | .sent announced _ => some announced
  | .heard _ => none

/-- A state and what was overheard of each session, the last session first. -/
structure Overheard (σ : Type) where
  state : σ
  sessions : List (List Passage)

namespace Overheard

/-- A state before anything was overheard. -/
def start (s : σ) : Overheard σ := ⟨s, []⟩

/-- Goes on with the transcript of the last session. -/
def more (ps : List Passage) : List (List Passage) → List (List Passage)
  | [] => []
  | session :: earlier => (session ++ ps) :: earlier

theorem more_append (ps qs : List Passage) :
    ∀ sessions : List (List Passage), more (ps ++ qs) sessions = more qs (more ps sessions)
  | [] => rfl
  | session :: earlier => by simp [more]

/-- Makes a call and writes down what is overheard meanwhile, after what was overheard before. -/
def hear (o : Overheard σ) (before : List Passage) (f : σ → Reply Confirm σ α) :
    Reply Confirm (Overheard σ) α :=
  let r := f o.state
  ⟨r.answer, r.events, r.notes, r.state, more (before ++ r.events.map .heard) o.sessions⟩

end Overheard

/-- The same lull, with what is overheard written down after the transcript so far. -/
def Lull.overheard (sessions : List (List Passage)) : Lull Confirm σ → Lull Confirm (Overheard σ)
  | .timeUp events s => .timeUp events ⟨s, Overheard.more (events.map .heard) sessions⟩
  | .stir events s next =>
    let sessions := Overheard.more (events.map .heard) sessions
    .stir events ⟨s, sessions⟩ (next.overheard sessions)

/-- The link with a transcript of every session on it. -/
def Link.overheard (l : Link σ) : Link (Overheard σ) where
  openSession o :=
    let r := l.openSession o.state
    ⟨r.answer, r.events, r.notes, r.state, r.events.map .heard :: o.sessions⟩
  listen o := { o with state := l.listen o.state }
  enableConfirms o := o.hear [] l.enableConfirms
  nextTag o := l.nextTag o.state
  declare d o := o.hear [] (l.declare d)
  transmit d p body o := o.hear [.sent (l.nextTag o.state) ⟨d, p, body⟩] (l.transmit d p body)
  awaitConfirms timeout o := o.hear [] (l.awaitConfirms timeout)
  lull timeout o := (l.lull timeout o.state).overheard o.sessions
  close o := o.hear [] l.close
  clock o := l.clock o.state

section Alike

theorem hear_alike {o : Overheard σ} {s : σ} (h : o.state = s) (before : List Passage)
    (f : σ → Reply Confirm σ α) : (o.hear before f).Alike (fun o s => o.state = s) (f s) := by
  subst h
  exact ⟨rfl, rfl, rfl⟩

theorem lull_overheard_alike : ∀ (lull : Lull Confirm σ) (sessions : List (List Passage)),
    (lull.overheard sessions).Alike (fun o s => o.state = s) lull
  | .timeUp _ _, _ => ⟨rfl, rfl⟩
  | .stir _ _ next, _ => ⟨rfl, rfl, lull_overheard_alike next _⟩

theorem overheard_alike (l : Link σ) : l.overheard.Alike (fun o s => o.state = s) l where
  openSession h := by subst h; exact ⟨rfl, rfl, rfl⟩
  listen h := congrArg l.listen h
  enableConfirms h := hear_alike h _ _
  nextTag h := congrArg l.nextTag h
  declare _ h := hear_alike h _ _
  transmit _ _ _ h := hear_alike h _ _
  awaitConfirms _ h := hear_alike h _ _
  lull timeout h := by subst h; exact lull_overheard_alike _ _
  close h := hear_alike h _ _
  clock h := congrArg l.clock h

end Alike

/-- What was overheard of a session on which these messages were to be sent, as a history: the tags
announced are those of the messages, one after another. -/
def postings : List Message → List Passage → List (Posting Message)
  | _, [] => []
  | ms, .heard c :: later => .answered c :: postings ms later
  | m :: ms, .sent t _ :: later => .recorded t m :: postings ms later
  | [], .sent _ _ :: later => postings [] later

namespace Posting

/-- What is overheard of it. -/
def erase (parcel : Message → Parcel) : Posting Message → Passage
  | .recorded t m => .sent t (parcel m)
  | .answered c => .heard c

/-- The message that it records. -/
def item? : Posting Message → Option Message
  | .recorded _ m => some m
  | .answered _ => none

/-- The message that it records, with its tag. -/
def entry? : Posting Message → Option (Tag × Message)
  | .recorded t m => some (t, m)
  | .answered _ => none

end Posting

theorem entry?_snd (h : List (Posting Message)) :
    (h.filterMap Posting.entry?).map Prod.snd = h.filterMap Posting.item? := by
  rw [List.map_filterMap]
  refine List.filterMap_congr fun p _ => ?_
  cases p <;> rfl

section Erase

variable (parcel : Message → Parcel)

/-- What a history records may be the first part of what was to be sent. -/
theorem postings_erase_append (rest : List Message) : ∀ h : List (Posting Message),
    postings (h.filterMap Posting.item? ++ rest) (h.map (Posting.erase parcel)) = h
  | [] => by cases rest <;> rfl
  | .recorded t m :: later =>
    congrArg (Posting.recorded t m :: ·) (postings_erase_append rest later)
  | .answered c :: later =>
    congrArg (Posting.answered c :: ·) (postings_erase_append rest later)

theorem postings_erase (h : List (Posting Message)) :
    postings (h.filterMap Posting.item?) (h.map (Posting.erase parcel)) = h := by
  have heq := postings_erase_append parcel [] h
  rwa [List.append_nil] at heq

theorem parcels_erase : ∀ h : List (Posting Message),
    (h.map (Posting.erase parcel)).filterMap Passage.parcel?
      = (h.filterMap Posting.item?).map parcel
  | [] => rfl
  | .recorded _ m :: later => congrArg (parcel m :: ·) (parcels_erase later)
  | .answered _ :: later => parcels_erase later

theorem erase_answered (cs : List Confirm) :
    (cs.map Posting.answered).map (Posting.erase parcel) = cs.map .heard := by
  rw [List.map_map]
  rfl

theorem item?_answered : ∀ cs : List Confirm,
    (cs.map Posting.answered).filterMap Posting.item? = []
  | [] => rfl
  | _ :: cs => item?_answered cs

theorem entry?_fst (h : List (Posting Message)) :
    (h.filterMap Posting.entry?).map Prod.fst
      = (h.map (Posting.erase parcel)).filterMap Passage.tag? := by
  rw [List.map_filterMap, List.filterMap_map]
  refine List.filterMap_congr fun p _ => ?_
  cases p <;> rfl

end Erase

end ConfirmedDelivery
