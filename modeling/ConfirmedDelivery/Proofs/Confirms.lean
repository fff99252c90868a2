import ConfirmedDelivery.Proofs.Books

/-!
# The algebra of confirms

Confirms of one verdict do to the books what the tags they cover make them do, however they are cut
up and in whatever order they come: only the order of the queue may change (`handleAll_alike`), and
where they take the same items out in the same order not even that (`handleAll_congr`). So a multiple
confirm is as good as single ones for what it finds in flight, it makes a lower one before it
superfluous, and no confirm does anything twice.
-/

namespace ConfirmedDelivery

universe u

variable {α : Type u}

theorem InFlight.ext_of_listing {f g : InFlight α} (hlisting : f.listing = g.listing)
    (hshown : f.shown = g.shown) : f = g := by
  obtain ⟨⟨_, _⟩, _⟩ := f
  obtain ⟨⟨_, _⟩, _⟩ := g
  simp_all [listing]

namespace Books

/-- What confirms take out of flight, as they come. -/
def taken : Books α → List Confirm → List (Tag × α)
  | _, [] => []
  | b, c :: cs => (b.handle c).1 ++ taken (b.handle c).2 cs

/-- Single confirms for what is in flight up to a tag, in ascending order. -/
def singles (b : Books α) (v : Verdict) (t : Tag) : List Confirm :=
  (b.inFlight.tags.filter (· ≤ t)).map fun t' => ⟨⟨t', false⟩, v⟩


@[ext] theorem ext {b b' : Books α} (hinFlight : b.inFlight = b'.inFlight)
    (hacked : b.acked = b'.acked) (hnacked : b.nacked = b'.nacked)
    (hrejected : b.rejected = b'.rejected) : b = b' := by
  cases b
  cases b'
  simp_all

/-! ## What a run of confirms leaves -/

section Run

variable {v : Verdict} {cs ds : List Confirm}

theorem unanswered_handleAll : ∀ (cs : List Confirm) (b : Books α),
    (b.handleAll cs).unanswered = b.unanswered.filter fun e => !cs.any (·.covers e.1)
  | [], b => by simp [handleAll_nil]
  | c :: cs, b => by
    rw [handleAll_cons, unanswered_handleAll cs, unanswered_handle, List.filter_filter]
    simp [Bool.and_comm]

theorem taken_perm : ∀ (cs : List Confirm) (b : Books α),
    (b.taken cs).Perm (b.unanswered.filter fun e => cs.any (·.covers e.1))
  | [], b => by simp [taken]
  | c :: cs, b => by
    have ih := taken_perm cs (b.handle c).2
    rw [unanswered_handle, List.filter_filter] at ih
    refine (ih.append_left _).trans ?_
    rw [handle_fst]
    -- what is covered at all is covered by the first confirm or else by a later one
    refine List.Perm.trans ?_ (List.filter_append_perm (fun e => c.covers e.1) _)
    simp only [List.filter_filter]
    refine .of_eq (congrArg₂ _ (List.filter_congr fun e _ => ?_) (List.filter_congr fun e _ => ?_))
    all_goals by_cases h : c.covers e.1 <;> simp [h]

theorem mem_taken {b : Books α} {e : Tag × α} :
    e ∈ b.taken cs ↔ e ∈ b.unanswered ∧ cs.any (·.covers e.1) = true :=
  (taken_perm cs b).mem_iff.trans List.mem_filter

theorem taken_eq_nil_iff (b : Books α) (cs : List Confirm) :
    b.taken cs = [] ↔ (b.handleAll cs).unanswered = b.unanswered := by
  have hperm := taken_perm cs b
  rw [unanswered_handleAll, List.filter_eq_self]
  constructor
  · intro h e he
    rw [h, List.nil_perm, List.filter_eq_nil_iff] at hperm
    simpa using hperm e he
  · intro h
    have hnone : (b.unanswered.filter fun e => cs.any (·.covers e.1)) = [] :=
      List.filter_eq_nil_iff.2 fun e he => by simpa using h e he
    rw [hnone] at hperm
    exact hperm.eq_nil

/-- Waiters see the number of what is left, or else nothing was taken out. -/
theorem shown_handleAll : ∀ (cs : List Confirm) (b : Books α),
    (b.handleAll cs).inFlight.shown
      = if b.taken cs = [] then b.inFlight.shown else (b.handleAll cs).unanswered.length
  | [], b => by simp [handleAll_nil, taken]
  | c :: cs, b => by
    rw [handleAll_cons, shown_handleAll cs]
    by_cases hc : b.unanswered.filter (fun e => c.covers e.1) = []
    · simp [taken, handle_of_none hc]
    · have hfst : (b.handle c).1 ≠ [] := by rwa [handle_fst]
      have hshown : (b.handle c).2.inFlight.shown = (b.handle c).2.unanswered.length := by
        rw [handle_of_some hc]
        rfl
      by_cases hcs : (b.handle c).2.taken cs = []
      · simp [taken, hfst, hcs, hshown, (taken_eq_nil_iff _ _).1 hcs]
      · simp [taken, hcs]

theorem acked_handleAll : ∀ {cs : List Confirm} (b : Books α), (∀ c ∈ cs, c.verdict = v) →
    (b.handleAll cs).acked = b.acked + if v = .acked then (b.taken cs).length else 0
  | [], b, _ => by simp [handleAll_nil, taken]
  | c :: cs, b, h => by
    obtain ⟨hc, hcs⟩ := List.forall_mem_cons.1 h
    rw [handleAll_cons, acked_handleAll _ hcs, acked_handle, taken, List.length_append, hc]
    split_ifs <;> omega

theorem nacked_handleAll : ∀ {cs : List Confirm} (b : Books α), (∀ c ∈ cs, c.verdict = v) →
    (b.handleAll cs).nacked = b.nacked + if v = .nacked then (b.taken cs).length else 0
  | [], b, _ => by simp [handleAll_nil, taken]
  | c :: cs, b, h => by
    obtain ⟨hc, hcs⟩ := List.forall_mem_cons.1 h
    rw [handleAll_cons, nacked_handleAll _ hcs, nacked_handle, taken, List.length_append, hc]
    split_ifs <;> omega

theorem rejected_handleAll : ∀ {cs : List Confirm} (b : Books α), (∀ c ∈ cs, c.verdict = v) →
    (b.handleAll cs).rejected
      = b.rejected ++ if v = .nacked then (b.taken cs).map Prod.snd else []
  | [], b, _ => by simp [handleAll_nil, taken]
  | c :: cs, b, h => by
    obtain ⟨hc, hcs⟩ := List.forall_mem_cons.1 h
    rw [handleAll_cons, rejected_handleAll _ hcs, rejected_handle, taken, hc]
    split_ifs <;> simp

variable {b : Books α} (hcs : ∀ c ∈ cs, c.verdict = v) (hds : ∀ d ∈ ds, d.verdict = v)

include hcs hds

/-- Confirms that cover the same tags come to the same, but for the order of the queue. -/
theorem handleAll_alike (h : ∀ t, cs.any (·.covers t) = ds.any (·.covers t)) :
    (b.handleAll cs).inFlight = (b.handleAll ds).inFlight
      ∧ (b.handleAll cs).acked = (b.handleAll ds).acked
      ∧ (b.handleAll cs).nacked = (b.handleAll ds).nacked
      ∧ (b.handleAll cs).rejected.Perm (b.handleAll ds).rejected := by
  have hperm : (b.taken cs).Perm (b.taken ds) := by
    refine (taken_perm cs b).trans (List.Perm.trans ?_ (taken_perm ds b).symm)
    simp only [h, List.Perm.refl]
  have hleft : (b.handleAll cs).unanswered = (b.handleAll ds).unanswered := by
    simp only [unanswered_handleAll, h]
  have hnone : b.taken cs = [] ↔ b.taken ds = [] := by
    simp only [← List.length_eq_zero_iff, hperm.length_eq]
  have hshown : (b.handleAll cs).inFlight.shown = (b.handleAll ds).inFlight.shown := by
    simp only [shown_handleAll, hnone, hleft]
  refine ⟨?_, ?_, ?_, ?_⟩
  · exact InFlight.ext_of_listing hleft hshown
  · rw [acked_handleAll b hcs, acked_handleAll b hds, hperm.length_eq]
  · rw [nacked_handleAll b hcs, nacked_handleAll b hds, hperm.length_eq]
  · rw [rejected_handleAll b hcs, rejected_handleAll b hds]
    refine List.Perm.append_left _ ?_
    split_ifs
    · exact hperm.map _
    · exact .refl _

theorem handleAll_congr (h : b.taken cs = b.taken ds) : b.handleAll cs = b.handleAll ds := by
  have hleft : (b.handleAll cs).unanswered = (b.handleAll ds).unanswered := by
    rw [unanswered_handleAll, unanswered_handleAll]
    refine List.filter_congr fun e he => ?_
    have hcovered : e ∈ b.taken cs ↔ _ := mem_taken
    rw [h, mem_taken] at hcovered
    simp only [he, true_and] at hcovered
    rw [Bool.eq_iff_iff.2 hcovered]
  have hshown : (b.handleAll cs).inFlight.shown = (b.handleAll ds).inFlight.shown := by
    rw [shown_handleAll, shown_handleAll, h, hleft]
  have hacked : (b.handleAll cs).acked = (b.handleAll ds).acked := by
    rw [acked_handleAll b hcs, acked_handleAll b hds, h]
  have hnacked : (b.handleAll cs).nacked = (b.handleAll ds).nacked := by
    rw [nacked_handleAll b hcs, nacked_handleAll b hds, h]
  have hrejected : (b.handleAll cs).rejected = (b.handleAll ds).rejected := by
    rw [rejected_handleAll b hcs, rejected_handleAll b hds, h]
  exact ext (InFlight.ext_of_listing hleft hshown) hacked hnacked hrejected

end Run

/-! ## Confirms of one verdict -/

section Verdict

variable (b : Books α) (v : Verdict) {s t : Tag}

theorem taken_one (c : Confirm) : b.taken [c] = (b.handle c).1 := by simp [taken]

/-- Single confirms for some of the items in flight, in their order, take out those. -/
theorem taken_named : ∀ (es : List (Tag × α)) (b : Books α), es.Sublist b.unanswered →
    b.taken (es.map fun e => ⟨⟨e.1, false⟩, v⟩) = es
  | [], _, _ => rfl
  | e :: es, b, hsub => by
    have hasc := b.ascending_unanswered
    have hes : es.filter (fun x => !(x.1 == e.1)) = es :=
      List.filter_eq_self.2 fun x hx => by
        simpa using (Std.ne_of_lt ((List.pairwise_cons.1 (hasc.sublist hsub)).1 x hx)).symm
    have hget : b.inFlight.entries.get? e.1 = some e.2 :=
      Dict.get?_eq_some.2 (hsub.mem List.mem_cons_self)
    have hone : b.unanswered.filter (fun x => x.1 == e.1) = [e] := by
      have hfilter := Dict.filter_entries_eq b.inFlight.entries e.1
      rw [hget] at hfilter
      simp only [beq_eq_decide]
      exact hfilter
    have hrest : es.Sublist (b.handle ⟨⟨e.1, false⟩, v⟩).2.unanswered := by
      rw [unanswered_handle, ← hes]
      exact ((List.sublist_cons_self e es).trans hsub).filter _
    rw [List.map_cons, taken, taken_named es _ hrest, handle_fst]
    simp only [Scope.covers, Bool.false_eq_true, if_false, hone, List.singleton_append]

theorem taken_singles (s : Tag) : b.taken (b.singles v s) = (b.handle ⟨⟨s, true⟩, v⟩).1 := by
  have hnames : b.singles v s
      = (b.unanswered.filter fun e => e.1 ≤ s).map fun e => ⟨⟨e.1, false⟩, v⟩ := by
    simp only [singles, InFlight.tags, Dict.keys, List.filter_map, List.map_map]
    rfl
  rw [hnames, taken_named v _ b List.filter_sublist, handle_fst]
  rfl

theorem taken_absorbed (h : s ≤ t) :
    b.taken [⟨⟨s, true⟩, v⟩, ⟨⟨t, true⟩, v⟩] = (b.handle ⟨⟨t, true⟩, v⟩).1 := by
  have hcut := InFlight.cut_upTo s (b.ascending_unanswered.filter fun e => e.1 ≤ t)
  have hlow : ∀ e : Tag × α, (decide (e.1 ≤ s) && decide (e.1 ≤ t)) = decide (e.1 ≤ s) := by
    intro e
    by_cases he : e.1 ≤ s
    · simp [he, Std.le_trans he h]
    · simp [he]
  simp only [List.filter_filter, hlow] at hcut
  simp only [taken, handle_fst, unanswered_handle, List.filter_filter, List.append_nil]
  simp only [Scope.covers, if_true]
  rw [hcut]
  simp only [Bool.and_comm]

end Verdict

/-- A multiple confirm does what single ones do for the tags in flight up to its own, in ascending
order; after a lower one of its verdict it does all that it would have done without it; what has been
confirmed is not confirmed again, whatever other confirms come in between; and confirms of one verdict
may change places, but for the order in which the items are queued. -/
theorem confirms_compose (b : Books α) (v : Verdict) (s : Tag) :
    (b.handleAll (b.singles v s) = (b.handle ⟨⟨s, true⟩, v⟩).2
      ∧ b.taken (b.singles v s) = (b.handle ⟨⟨s, true⟩, v⟩).1)
    ∧ (∀ t, s ≤ t →
      b.handleAll [⟨⟨s, true⟩, v⟩, ⟨⟨t, true⟩, v⟩] = (b.handle ⟨⟨t, true⟩, v⟩).2
        ∧ b.taken [⟨⟨s, true⟩, v⟩, ⟨⟨t, true⟩, v⟩] = (b.handle ⟨⟨t, true⟩, v⟩).1)
    ∧ (∀ (c : Confirm) (between : List Confirm),
      let b' := (b.handle c).2.handleAll between
      b'.handle c = ([], b'))
    ∧ ∀ c d : Scope,
      let b₁ := b.handleAll [⟨c, v⟩, ⟨d, v⟩]
      let b₂ := b.handleAll [⟨d, v⟩, ⟨c, v⟩]
      b₁.inFlight = b₂.inFlight ∧ b₁.acked = b₂.acked ∧ b₁.nacked = b₂.nacked
        ∧ b₁.rejected.Perm b₂.rejected := by
  have hone : ∀ c : Confirm, b.handleAll [c] = (b.handle c).2 := fun _ => rfl
  have hsingles : ∀ c ∈ b.singles v s, c.verdict = v := by
    intro c hc
    obtain ⟨t, -, rfl⟩ := List.mem_map.1 hc
    rfl
  refine ⟨⟨?_, taken_singles b v s⟩, fun t hst => ⟨?_, taken_absorbed b v hst⟩,
    fun c between => ?_, fun c d => ?_⟩
  · rw [← hone]
    refine handleAll_congr hsingles (by simp) ?_
    rw [taken_one, taken_singles]
  · rw [← hone]
    refine handleAll_congr (v := v) (by simp) (by simp) ?_
    rw [taken_one, taken_absorbed b v hst]
  · refine handle_of_none (List.filter_eq_nil_iff.2 fun e he => ?_)
    rw [unanswered_handleAll, unanswered_handle, List.mem_filter, List.mem_filter] at he
    simpa using he.1.2
  · exact handleAll_alike (v := v) (by simp) (by simp) fun t => by simp [Bool.or_comm]

/-- Four items in flight, the last one under the greatest tag. -/
def four : Books Nat :=
  ⟨⟨⟨[(1, 10), (2, 20), (4, 40), (18446744073709551615, 50)], by decide⟩, 4⟩, 0, 0, []⟩

theorem confirms_compose_four :
    (2 : Tag) ≤ 18446744073709551615
      ∧ four.handleAll [Confirm.nack 2 true, Confirm.nack 18446744073709551615 true]
        = (four.handle (Confirm.nack 18446744073709551615 true)).2
      ∧ (four.handle (Confirm.nack 18446744073709551615 true)).2.rejected = [10, 20, 40, 50] :=
  ⟨by decide, ((confirms_compose four .nacked 2).2.1 _ (by decide)).1, by decide⟩

end Books

end ConfirmedDelivery
