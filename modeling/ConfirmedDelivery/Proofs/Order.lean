import ConfirmedDelivery.Proofs.Protocol

/-!
# The order of what is sent again

The messages that a round had refused are sent again in the order in which they were refused: in that
of the confirms, and for one confirm in that of the tags (`Requeues`). Where the tags ascend from
message to message this is the order of publication just when no message was refused before one that
was sent earlier (`queue_eq_iff`). A link is free to refuse them in another order
(`publishAll_reverses`).
-/

namespace ConfirmedDelivery

universe u

variable {σ : Type} {α : Type u}

namespace Recording

/-- Settled by the same confirm or by an earlier one. -/
def NoLater (r s : Recording α) : Prop :=
  ∃ f g, r.fate = some f ∧ s.fate = some g ∧ f.1 ≤ g.1

variable {r s : Recording α}

theorem Before.noLater (h : r.Before s) : r.NoLater s := by
  obtain ⟨f, g, hf, hg, hlt | ⟨heq, -⟩⟩ := h
  · exact ⟨f, g, hf, hg, Nat.le_of_lt hlt⟩
  · exact ⟨f, g, hf, hg, Nat.le_of_eq heq⟩

theorem NoLater.before (h : r.NoLater s) (htag : r.tag < s.tag) : r.Before s := by
  obtain ⟨f, g, hf, hg, hle⟩ := h
  refine ⟨f, g, hf, hg, ?_⟩
  rcases Nat.lt_or_eq_of_le hle with hlt | heq
  · exact .inl hlt
  · exact .inr ⟨heq, htag⟩

theorem Before.asymm (h : r.Before s) : ¬ s.Before r := by
  rintro ⟨f', g', hf', hg', h'⟩
  obtain ⟨f, g, hf, hg, h⟩ := h
  obtain rfl : f = g' := Option.some.inj (hf.symm.trans hg')
  obtain rfl : g = f' := Option.some.inj (hg.symm.trans hf')
  rcases h with hlt | ⟨heq, htag⟩ <;> rcases h' with hlt' | ⟨heq', htag'⟩
  · omega
  · omega
  · omega
  · exact UInt64.lt_asymm htag htag'

theorem noLater_of_settledAt {n : Nat} (hr : r.settledAt n = true) (hs : s.settledAt n = true) :
    r.NoLater s := by
  obtain ⟨f, hf, hfn⟩ := (Option.any_eq_true _ _).1 hr
  obtain ⟨g, hg, hgn⟩ := (Option.any_eq_true _ _).1 hs
  refine ⟨f, g, hf, hg, Nat.le_of_eq ?_⟩
  rw [of_decide_eq_true hfn, of_decide_eq_true hgn]

end Recording

section Queue

variable {refused queue : List (Recording α)}

/-- There is but one such order. -/
theorem eq_of_before (hperm : queue.Perm refused) (hqueue : queue.Pairwise Recording.Before)
    (hrefused : refused.Pairwise Recording.Before) : queue = refused :=
  hperm.eq_of_pairwise (fun _ _ _ _ hrs hsr => absurd hsr hrs.asymm) hqueue hrefused

variable (hperm : queue.Perm refused) (hqueue : queue.Pairwise Recording.Before)
  (hascending : refused.Pairwise fun r s => r.tag < s.tag)

include hperm hqueue hascending

theorem queue_at (n : Nat) :
    queue.filter (Recording.settledAt n) = refused.filter (Recording.settledAt n) := by
  refine eq_of_before (hperm.filter _) (hqueue.filter _) ?_
  refine List.Pairwise.imp_of_mem (fun hr hs htag => ?_) (hascending.filter _)
  exact (Recording.noLater_of_settledAt (List.mem_filter.1 hr).2 (List.mem_filter.1 hs).2).before
    htag

theorem queue_eq_iff : queue = refused ↔ refused.Pairwise Recording.NoLater := by
  constructor
  · rintro rfl
    exact hqueue.imp Recording.Before.noLater
  · intro h
    refine eq_of_before hperm hqueue ((h.and hascending).imp ?_)
    rintro r s ⟨hnolater, htag⟩
    exact hnolater.before htag

end Queue

/-- A round that sent all messages in order, of whose session this was heard, leaves for the next one
what it had refused, in the order of the confirms and then of the tags. If the announced tags ascend,
then what one confirm refused is left in the order of publication, and all of it is just when the
confirms came in that order too. -/
def Requeues (parcel : Message → Parcel) (messages : List Message) (session : List Passage)
    (rejected : List Message) : Prop :=
  let rs := recordings ∅ 0 (postings messages session)
  let refused := rs.filter (Recording.settledAs .nacked)
  session.filterMap Passage.parcel? = messages.map parcel ∧ rs.map Recording.item = messages
    ∧ ∃ queue : List (Recording Message),
      queue.Perm refused ∧ queue.Pairwise Recording.Before ∧ rejected = queue.map Recording.item
        ∧ ((session.filterMap Passage.tag?).Pairwise (· < ·) →
          (∀ n, queue.filter (Recording.settledAt n) = refused.filter (Recording.settledAt n))
            ∧ (queue = refused ↔ refused.Pairwise Recording.NoLater)
            ∧ (refused.Pairwise Recording.NoLater → rejected.Sublist messages))

theorem Orderly.requeues {settings : Settings} (hsize : 0 < settings.chunkSize) {s : Sitting}
    (h : Orderly settings s) {outcome : Outcome Message} (hok : s.result = .ok outcome) :
    Requeues settings.parcel s.messages (Minute.passages s.minutes) outcome.rejected := by
  obtain ⟨history, hpassages, hitems, hunshared, hbooks⟩ := h.recorded
  rcases h.calls with ⟨fault, -, hfailed⟩ | ⟨calls, ending, hcalls, -, hfinishes⟩
  · rw [hok] at hfailed
    exact absurd hfailed nofun
  rw [hok] at hfinishes
  obtain ⟨-, hplan, rfl⟩ := hfinishes
  -- the plan was carried out, so every message was sent, and none was sent that was not recorded
  have hmoves : moves (Minute.calls s.minutes)
      = .openSession :: (plan settings s.messages ++ [.close]) := by
    rw [hcalls, ← hplan, moves, List.cons_append, List.map_cons, List.map_append]
    rfl
  have hparcels : (Minute.passages s.minutes).filterMap Passage.parcel?
      = s.messages.map settings.parcel := by
    rw [parcels_passages, hmoves, List.filterMap_cons_none rfl, List.filterMap_append,
      parcels_plan settings hsize]
    exact List.append_nil _
  have hall : history.filterMap Posting.item? = s.messages := by
    refine hitems.eq_of_length ?_
    rw [hpassages, parcels_erase] at hparcels
    simpa using congrArg List.length hparcels
  have hentries := Unshared.entries_recordings history ∅ 0 hunshared
  obtain ⟨queue, hperm, hqueue, hrejected⟩ := (agrees history ∅ 0).rejected
  rw [account_empty] at hperm
  unfold Requeues
  rw [hpassages, postings_erase_of_items hitems]
  have hrecorded : (recordings ∅ 0 history).map Recording.item = s.messages := by
    rw [← hall, ← entry?_snd, ← hentries, List.map_map]
    rfl
  have hleft : s.books.rejected = queue.map Recording.item := by
    rw [hbooks, hrejected, Books.rejected_empty, List.nil_append]
  refine ⟨hpassages ▸ hparcels, hrecorded, queue, hperm, hqueue, hleft, fun htags => ?_⟩
  have hascending : (recordings ∅ 0 history).Pairwise fun r s => r.tag < s.tag := by
    rw [← entry?_fst, ← hentries, List.map_map] at htags
    exact List.pairwise_map.1 htags
  have hrefused := hascending.filter (Recording.settledAs .nacked)
  refine ⟨queue_at hperm hqueue hrefused, queue_eq_iff hperm hqueue hrefused, fun hnolater => ?_⟩
  rw [hleft, (queue_eq_iff hperm hqueue hrefused).2 hnolater, ← hrecorded]
  exact List.filter_sublist.map _

namespace Publisher

/-- Whatever the link does, a round that comes to its end leaves what it had refused in the order in
which it was refused. This is what the next round of a call sends, in that order. -/
theorem publishAll_requeues (p : Publisher) (link : Link σ) (messages : List Message)
    (j : Journaled σ) :
    (∀ number pending (j : Journaled σ) outcome, (p.conduct link number pending j).1 = .ok outcome →
      let r := p.conduct link.minuted number pending ⟨.start j.state, j.journal⟩
      Requeues p.settings.parcel pending (Minute.passages r.2.state.minutes) outcome.rejected)
    ∧ let r := p.publishAll link.minuted messages ⟨.start j.state, j.journal⟩
      r.1 = (p.publishAll link messages j).1
        ∧ r.2.state.state = (p.publishAll link messages j).2.state
        ∧ ∃ sittings, r.2.state.minutes = sittings.flatMap Sitting.minutes
          ∧ Adjourns p.settings messages sittings r.1
          ∧ ∀ s ∈ sittings, ∀ outcome, s.result = .ok outcome →
            Requeues p.settings.parcel s.messages (Minute.passages s.minutes) outcome.rejected := by
  constructor
  · intro number pending j outcome hok r
    have hplain := p.conduct_minuted link number pending ⟨.start j.state, j.journal⟩
    obtain ⟨minutes, hminutes, horderly⟩ :=
      conduct_orderly p link number pending ⟨.start j.state, j.journal⟩
    rw [show r.2.state.minutes = minutes from hminutes]
    exact horderly.requeues p.chunkSize_pos (hplain.1.trans hok)
  · intro r
    obtain ⟨hresult, hstate, -⟩ := p.publishAll_minuted link messages j
    obtain ⟨sittings, hminutes, hadjourns⟩ := p.publishAll_adjourns link messages j
    refine ⟨hresult, hstate, sittings, hminutes, hadjourns, fun s hs outcome hok => ?_⟩
    exact (hadjourns.orderly s hs).requeues p.chunkSize_pos hok

/-- A link that numbers the messages of each session from one on. When it is waited for on its first
session it refuses two messages, the second one first; on later sessions it accepts each message at
once. -/
def backwards : Link (Nat × Tag) where
  openSession s := .quiet (.ok ()) (s.1 + 1, 0)
  listen := id
  enableConfirms := .quiet (.ok ())
  nextTag s := s.2 + 1
  declare _ := .quiet (.ok ())
  transmit _ _ _ s :=
    ⟨.ok (s.2 + 1), if s.1 = 1 then [] else [.ack (s.2 + 1) false], [], (s.1, s.2 + 1)⟩
  awaitConfirms _ s := ⟨.ok true, if s.1 = 1 then [.nack 2 false, .nack 1 false] else [], [], s⟩
  lull _ := .timeUp []
  close := .quiet (.ok ())
  clock _ := .zero

/-- Two messages are sent in order and refused in the other one, and so they are left by the round,
and sent again. -/
theorem publishAll_reverses :
    let messages : List Message := [⟨1, "Hello", .empty, .empty⟩, ⟨2, "GoodBye", .empty, .empty⟩]
    let r := standard.publishAll backwards.minuted messages (.start (.start (0, 0)))
    let passages := Minute.passages r.2.state.minutes
    (∃ outcome, (standard.conduct backwards 1 messages (.start (0, 0))).1 = .ok outcome
        ∧ outcome.rejected.map Message.id = [2, 1] ∧ ¬ outcome.rejected.Sublist messages)
      ∧ reported r.1 = some ⟨4, 2, 2, 2, .zero⟩
      ∧ passages.filterMap Passage.tag? = [1, 2, 1, 2]
      ∧ (passages.filterMap Passage.parcel?).map (fun parcel => parcel.properties.messageId)
        = [1, 2, 2, 1] := by
  intro messages r passages
  refine ⟨?_, by decide +kernel⟩
  have hround : (standard.conduct backwards 1 messages (.start (0, 0))).1.toOption.map
      (fun outcome => outcome.rejected.map Message.id) = some [2, 1] := by decide +kernel
  rcases hconduct : (standard.conduct backwards 1 messages (.start (0, 0))).1 with e | outcome
  · rw [hconduct] at hround
    exact absurd hround nofun
  rw [hconduct] at hround
  have hids : outcome.rejected.map Message.id = [2, 1] := Option.some.inj hround
  refine ⟨outcome, rfl, hids, fun hsublist => ?_⟩
  have hids' := hsublist.map Message.id
  rw [hids] at hids'
  exact absurd hids' (by decide +kernel)

end Publisher

end ConfirmedDelivery
