import ConfirmedDelivery.Proofs.Telling

/-!
# Repeated tags

A message is recorded under a tag only while nothing is in flight under it (`Unshared`): before a tag
is used again, a confirm that covers it comes in (`Unshared.covered_between`). A link that announces a
tag in flight is found out before the message is sent (`conduct_refuses_taken`). Nothing else is found
out: an answered message leaves no trace, and nobody notices that its tag is given to another one
(`conduct_misses_repeated`).
-/

namespace ConfirmedDelivery

variable {σ : Type}

/-- Nothing is recorded in this history under a tag that is in flight. -/
def Unshared (h : List (Posting Message)) : Prop :=
  ∀ before t m later, h = before ++ .recorded t m :: later →
    t ∉ ((∅ : Books Message).replay before).inFlight.tags

namespace Unshared

theorem nil : Unshared [] := fun _ _ _ _ h => absurd h (by simp)

variable {h : List (Posting Message)}

/-- One more posting, which records nothing under a tag in flight. -/
theorem append (hunshared : Unshared h) {p : Posting Message}
    (hp : ∀ t m, p = .recorded t m → t ∉ ((∅ : Books Message).replay h).inFlight.tags) :
    Unshared (h ++ [p]) := by
  intro before t m later heq
  rcases List.eq_nil_or_concat later with rfl | ⟨later, q, rfl⟩
  · obtain ⟨rfl, hlast⟩ := List.append_inj' heq rfl
    exact hp t m (List.head_eq_of_cons_eq hlast)
  · have hinit : h ++ [p] = (before ++ .recorded t m :: later) ++ [q] := by
      rw [heq, List.concat_eq_append, List.append_assoc, List.cons_append]
    exact hunshared before t m later (List.append_inj' hinit rfl).1

theorem answered (hunshared : Unshared h) (c : Confirm) : Unshared (h ++ [.answered c]) :=
  hunshared.append fun _ _ => nofun

theorem recorded (hunshared : Unshared h) {b b' : Books Message} {t : Tag} {m : Message}
    (hbooks : b = (∅ : Books Message).replay h) (hadd : b.add? t m = some b') :
    Unshared (h ++ [.recorded t m]) := hunshared.append fun _ _ heq => by
  obtain ⟨rfl, rfl⟩ := Posting.recorded.inj heq
  rw [← hbooks, ← Books.add?_eq_none_iff (a := _), hadd]
  exact Option.some_ne_none _

/-- Before a tag is used again a confirm comes in that covers it. -/
theorem covered_between (hunshared : Unshared h) {before between later : List (Posting Message)}
    {t : Tag} {m m' : Message}
    (heq : h = before ++ .recorded t m :: (between ++ .recorded t m' :: later)) :
    ∃ c, .answered c ∈ between ∧ c.covers t = true := by
  -- otherwise the first message would still be in flight when the second is recorded
  by_contra hnone
  push Not at hnone
  have hfree := hunshared before t m _ heq
  obtain ⟨b, hadd⟩ : ∃ b, ((∅ : Books Message).replay before).add? t m = some b :=
    Option.ne_none_iff_exists'.1 fun hadd => hfree (Books.add?_eq_none_iff.1 hadd)
  have hstill : t ∈ (b.replay between).inFlight.tags :=
    Books.mem_tags_replay between ((Books.mem_tags_add? hadd).2 (.inl rfl)) fun c hc => by
      simpa using hnone c hc
  refine hunshared (before ++ .recorded t m :: between) t m' later (by simp [heq]) ?_
  rwa [Books.replay_append, Books.replay_of_recorded hadd]

/-- What is recorded under free tags only is all there in the end. -/
theorem entries_recordings : ∀ (h : List (Posting Message)) (b : Books Message) (n : Nat),
    (∀ before t m later, h = before ++ .recorded t m :: later →
      t ∉ (b.replay before).inFlight.tags) →
    (recordings b n h).map Recording.entry = h.filterMap Posting.entry?
  | [], _, _, _ => rfl
  | .recorded t m :: later, b, n, hfree => by
    obtain ⟨b', hadd⟩ : ∃ b', b.add? t m = some b' :=
      Option.ne_none_iff_exists'.1 fun hadd => hfree [] t m later rfl (Books.add?_eq_none_iff.1 hadd)
    have hlater := entries_recordings later b' (n + 1) fun before t' m' rest heq => by
      have hbefore := hfree (.recorded t m :: before) t' m' rest (by rw [heq, List.cons_append])
      rwa [Books.replay_of_recorded hadd] at hbefore
    simp only [recordings, hadd, List.map_cons, hlater]
    rfl
  | .answered c :: later, b, n, hfree =>
    entries_recordings later (b.handle c).2 (n + 1) fun before t m rest heq =>
      hfree (.answered c :: before) t m rest (by rw [heq, List.cons_append])

end Unshared

/-! ## What a round finds out -/

section Announced

open RoundM

variable {link : Link σ} {settings : Settings} {messages : List Message}

/-- A message is recorded under the tag that is announced for it, unless this is in flight. -/
theorem leads_recordNext (r : Round σ) (m : Message) :
    Leads (Round.recordNext link m) r
      (fun t r' => t = link.nextTag r.link ∧ t ∉ r.books.inFlight.tags
        ∧ ∃ b, r.books.add? t m = some b ∧ r' = { r with books := b })
      fun e r' => e = .duplicateTag (link.nextTag r.link)
        ∧ link.nextTag r.link ∈ r.books.inFlight.tags ∧ r' = r := by
  unfold Round.recordNext
  simp only [leads_bind, leads_get]
  rcases hadd : r.books.add? (link.nextTag r.link) m with _ | b
  · exact ⟨rfl, Books.add?_eq_none_iff.1 hadd, rfl⟩
  · refine ⟨rfl, fun ht => ?_, b, hadd, rfl⟩
    rw [Books.add?_eq_none_iff.2 ht] at hadd
    exact absurd hadd (by rintro ⟨⟩)

/-- What is known of a failure that came up after these messages were recorded: if it was a repeated
tag, then that is announced and in flight, and there was a message to be recorded under it. -/
def Exposed (link : Link σ) (messages : List Message) :
    Failure → List Message → σ → Books Message → Prop
  | .duplicateTag t, done, s, b =>
    t = link.nextTag s ∧ t ∈ b.inFlight.tags ∧ ∃ m, done ++ [m] <+: messages
  | _, _, _, _ => True

theorem upholds_exposed (s : σ) :
    Round.Upholds link settings messages s (fun _ _ _ _ => True) (Exposed link messages) where
  enable := Reply.ends_of (fun _ => trivial) fun _ => trivial
  declare _ _ _ := Reply.ends_of (fun _ => trivial) fun _ => trivial
  duplicate _ hdone hadd := ⟨rfl, Books.add?_eq_none_iff.1 hadd, _, hdone⟩
  transmit _ _ _ _ := Reply.ends_of (fun _ => by split_ifs; trivial) fun _ => trivial
  await _ _ _ := Reply.ends_of (fun _ => by split_ifs; trivial) fun _ => trivial
  lull _ _ := Lull.keeps_of (fun _ _ => trivial) (fun _ _ => trivial) _ _

theorem kept_unshared :
    Kept link settings (fun _ _ _ _ _ => True) Unshared where
  nil := Unshared.nil
  heard _ c h := h.answered c
  sent _ _ hadd hbooks h := h.recorded hbooks hadd

end Announced

namespace Publisher

/-- What a round does about tags that are announced again, whatever the link does. A message for
which a tag in flight is announced is not recorded, and the failure tells the tag. So every message
that is sent has a tag that is not in flight, and between two messages under one tag there came a
confirm that covers it. In a round that fails over a repeated tag the link announced it while it was
in flight, and the message for which it did was not sent. -/
theorem conduct_refuses_taken (p : Publisher) (link : Link σ) (number : Nat)
    (messages : List Message) (j : Journaled σ) :
    (∀ (r : Round σ) (m : Message), RoundM.Leads (Round.recordNext link m) r
      (fun t r' => t = link.nextTag r.link ∧ t ∉ r.books.inFlight.tags
        ∧ ∃ b, r.books.add? t m = some b ∧ r' = { r with books := b })
      fun e r' => e = .duplicateTag (link.nextTag r.link)
        ∧ link.nextTag r.link ∈ r.books.inFlight.tags ∧ r' = r)
    ∧ let r := p.overhearRound link number messages j
      r.1 = (p.conduct link number messages j).1
        ∧ r.2.state.state = (p.conduct link number messages j).2.state
        ∧ ∃ session, r.2.state.sessions = [session]
          ∧ let h := postings messages session
            let sent := h.filterMap Posting.item?
            session.filterMap Passage.parcel? = sent.map p.settings.parcel
              ∧ Unshared h
              ∧ (∀ before t m between m' later,
                  h = before ++ .recorded t m :: (between ++ .recorded t m' :: later) →
                  ∃ c, .answered c ∈ between ∧ c.covers t = true)
              ∧ match r.1 with
                | .ok _ => sent = messages
                | .error (.duplicateTag t) =>
                  (∃ m, sent ++ [m] <+: messages)
                    ∧ ∃ before s, h = before ++ (link.close s).events.map .answered
                      ∧ r.2.state.state = (link.close s).state ∧ t = link.nextTag s
                      ∧ t ∈ ((∅ : Books Message).replay before).inFlight.tags
                | .error _ => sent <+: messages := by
  refine ⟨leads_recordNext, ?_⟩
  intro r
  obtain ⟨h, hsessions, hitems, hunshared, hend⟩ :=
    p.conduct_told link number messages j kept_unshared fun _ => (upholds_exposed _).paced
  obtain ⟨hresult, hstate⟩ := p.overhearRound_alike link number messages j
  refine ⟨hresult, hstate, _, hsessions, ?_⟩
  rw [postings_erase_of_items hitems]
  refine ⟨parcels_erase _ h, hunshared, fun _ _ _ _ _ _ heq => hunshared.covered_between heq, ?_⟩
  change EndsTold _ _ _ _ r.1 _ at hend
  generalize r.1 = result at hend ⊢
  cases result with
  | ok outcome => exact hend
  | error e =>
    cases e with
    | duplicateTag t =>
      obtain ⟨fault, hfault⟩ | ⟨before, o, hbefore, hclosed, htag, htaken, hmore⟩ := hend
      · exact absurd hfault (by rintro ⟨⟩)
      · exact ⟨hmore, before, o.state, hbefore, congrArg Overheard.state hclosed, htag, htaken⟩
    | _ => exact hitems

/-- A link that announces one tag for every message and hands over these confirms with each. -/
def monotonous (confirms : List Confirm) : Link Unit where
  openSession := .quiet (.ok ())
  listen := id
  enableConfirms := .quiet (.ok ())
  nextTag _ := 9
  declare _ := .quiet (.ok ())
  transmit _ _ _ s := ⟨.ok 9, confirms, [], s⟩
  awaitConfirms _ := .quiet (.ok true)
  lull _ := .timeUp []
  close := .quiet (.ok ())
  clock _ := .zero

/-- Two messages are sent under one tag and nothing fails: the first one is answered before the tag
is announced again. -/
theorem conduct_misses_repeated :
    let messages : List Message := [⟨1, "Hello", .empty, .empty⟩, ⟨2, "GoodBye", .empty, .empty⟩]
    let r := standard.overhearRound (monotonous [.ack 9 false]) 1 messages (.start ())
    r.1.toOption.map (fun outcome => (outcome.published, outcome.confirmed)) = some (2, 2)
      ∧ r.2.state.sessions.map (List.map Passage.tag?) = [[some 9, none, some 9, none]] := by
  decide +kernel

end Publisher

end ConfirmedDelivery
