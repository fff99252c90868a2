import ConfirmedDelivery.Proofs.Broker.Spoken

/-!
# Flushing turn by turn

What a pass reports can also be found in turns (`flush`): the run at the front of what is pending is
taken out again and again, until nothing is there or something withheld, and then whatever else is
settled is taken out one by one. A turn looks for the end of its run tag by tag, so a tag without a
next one would stop it. Each turn leaves less pending (`size_flushTurn`), and in the end what was
taken out is what `reports` says, and what is withheld is left (`flush_eq`).
-/

namespace ConfirmedDelivery.Broker

/-! ## Turns -/

/-- The last tag of a run that has come as far as `last`; none if a tag has no next one. -/
def runEnd (ruling : Ruling) (last : Tag) : List (Tag × Settlement) → Option Tag
  | [] => some last
  | (t, x) :: rest =>
    match last.next? with
    | none => none
    | some next => if t = next ∧ x.ruling = ruling then runEnd ruling t rest else some last

/-- What a turn comes to. -/
inductive FlushTurn where
  /-- There is nothing to take out at the front. -/
  | over
  /-- A run was taken out. -/
  | took (run : List Settlement) (left : Dict Tag Settlement)
  /-- A tag has no next one. -/
  | overflow

/-- Takes the run at the front out of what is pending. -/
def flushTurn (p : Dict Tag Settlement) : FlushTurn :=
  match p.entries with
  | [] => .over
  | (start, first) :: _ =>
    if first.ruling = .withhold then .over
    else
      match start.next? with
      | none => .overflow
      | some next =>
        match runEnd first.ruling start (p.entries.filter fun e => decide (next ≤ e.1)) with
        | none => .overflow
        | some last =>
          let inRun (t : Tag) := decide (start ≤ t ∧ t ≤ last)
          .took (p.keep fun t _ => inRun t).values (p.keep fun t _ => !inRun t)

theorem le_runEnd {ruling : Ruling} : ∀ {es : List (Tag × Settlement)} {last t : Tag},
    runEnd ruling last es = some t → last ≤ t
  | [], last, t, h => by
    obtain rfl := Option.some.inj h
    exact Std.le_refl _
  | (t', x) :: rest, last, t, h => by
    unfold runEnd at h
    split at h
    · exact nomatch h
    · next next hnext =>
      split at h
      · next hgoes =>
        have hlt := (InFlight.lt_next hnext last).2 (Std.le_refl _)
        exact Std.le_trans (Std.le_of_lt hlt) (hgoes.1 ▸ le_runEnd h)
      · obtain rfl := Option.some.inj h
        exact Std.le_refl _

theorem size_flushTurn {p left : Dict Tag Settlement} {run : List Settlement}
    (h : flushTurn p = .took run left) : left.size < p.size := by
  unfold flushTurn at h
  split at h
  · exact nomatch h
  rename_i start first rest hentries
  split at h
  · exact nomatch h
  split at h
  · exact nomatch h
  split at h
  · exact nomatch h
  rename_i last hlast
  injection h with _ hleft
  subst hleft
  -- The entry that the turn starts from is in the run.
  refine List.length_filter_lt_length_iff_exists.2 ⟨(start, first), ?_, ?_⟩
  · rw [hentries]
    exact List.mem_cons_self
  · simp [le_runEnd hlast]

/-- Takes runs out at the front as long as there are any. -/
def flushFront (p : Dict Tag Settlement) : Option (List (List Settlement) × Dict Tag Settlement) :=
  match _h : flushTurn p with
  | .over => some ([], p)
  | .overflow => none
  | .took run left => (flushFront left).map fun r => (run :: r.1, r.2)
termination_by p.size
decreasing_by exact size_flushTurn ‹_›

/-- Takes out everything that is settled: the runs in which it is reported, and what is left. -/
def flush (mode : Reporting) (p : Dict Tag Settlement) :
    Option (List (List Settlement) × Dict Tag Settlement) :=
  let front := match mode with
    | .individual => some ([], p)
    | .cumulative => flushFront p
  front.map fun r =>
    (r.1 ++ (r.2.values.filter Settlement.settles).map fun s => [s],
      r.2.keep fun _ x => !x.settles)

/-! ## What turns come to -/

/-- Each settlement stands under its own tag, and there is a tag after it. -/
structure Tagged (p : Dict Tag Settlement) : Prop where
  keyed : ∀ e ∈ p.entries, e.1 = e.2.tag
  below : ∀ e ∈ p.entries, e.1.toNat + 1 < UInt64.size

namespace Tagged

variable {p q : Dict Tag Settlement} (h : Tagged p)

include h

theorem entries_eq : p.entries = p.values.map (entry id) := by
  unfold Dict.values
  rw [List.map_map]
  conv_lhs => rw [← List.map_id p.entries]
  refine List.map_congr_left fun e he => ?_
  exact Prod.ext (h.keyed e he) rfl

theorem ascending : Ascending p.values := by
  have hentries := p.ascending
  rw [h.entries_eq] at hentries
  have hvalues := List.pairwise_map.1 hentries
  exact hvalues

theorem below_values : ∀ x ∈ p.values, x.tag.toNat + 1 < UInt64.size := by
  intro x hx
  obtain ⟨e, he, rfl⟩ := List.mem_map.1 hx
  rw [← h.keyed e he]
  exact h.below e he

theorem keep (f : Tag → Settlement → Bool) : Tagged (p.keep f) where
  keyed e he := h.keyed e (List.mem_of_mem_filter he)
  below e he := h.below e (List.mem_of_mem_filter he)

theorem ext (h' : Tagged q) (hvalues : p.values = q.values) : p = q :=
  Dict.ext (by rw [h.entries_eq, h'.entries_eq, hvalues])

end Tagged

theorem next?_eq {t : Tag} (h : t.toNat + 1 < UInt64.size) : t.next? = some (t + 1) := if_pos h

/-- The end of a run is found where the run can no longer go on. -/
theorem runEnd_eq : ∀ {l : List Settlement} {x : Settlement},
    (∀ y ∈ x :: l, y.tag.toNat + 1 < UInt64.size) →
    ∃ more rest last, l = more ++ rest
      ∧ runEnd x.ruling x.tag (l.map (entry id)) = some last.tag
      ∧ (x :: more).getLast? = some last
      ∧ (x :: more).IsChain (fun y z => y.continues z = true)
      ∧ ∀ z ∈ rest.head?, last.continues z = false
  | [], x, _ => ⟨[], [], x, rfl, rfl, rfl, List.isChain_singleton x, by simp⟩
  | z :: l, x, hbelow => by
    obtain ⟨hx, hl⟩ := List.forall_mem_cons.1 hbelow
    rw [List.map_cons, entry, runEnd, next?_eq hx]
    dsimp only [id]
    by_cases hgoes : z.tag = x.tag + 1 ∧ z.ruling = x.ruling
    · obtain ⟨more, rest, last, rfl, hend, hlast, hchain, hstop⟩ := runEnd_eq hl
      rw [if_pos hgoes, ← hgoes.2]
      have hcontinues : x.continues z = true := by simp [Settlement.continues, hgoes]
      refine ⟨z :: more, rest, last, rfl, hend, ?_, ?_, hstop⟩
      · rw [List.getLast?_cons_cons, hlast]
      · exact List.isChain_cons_cons.2 ⟨hcontinues, hchain⟩
    · rw [if_neg hgoes]
      refine ⟨[], z :: l, x, rfl, rfl, rfl, List.isChain_singleton x, ?_⟩
      intro y hy
      obtain rfl := Option.some.inj hy
      simpa [Settlement.continues, imp_iff_not_or, not_and_or] using hgoes

theorem map_snd_entry (l : List Settlement) : (l.map (entry id)).map Prod.snd = l := by
  rw [List.map_map]
  exact List.map_id l

/-- From its first to its last tag stands a run and nothing else. -/
theorem filter_run {run rest : List Settlement} {first last : Settlement}
    (hasc : Ascending (run ++ rest)) (hfirst : run.head? = some first)
    (hlast : run.getLast? = some last) :
    let inRun (t : Tag) := decide (first.tag ≤ t ∧ t ≤ last.tag)
    ((run ++ rest).map (entry id)).filter (fun e => inRun e.1) = run.map (entry id)
      ∧ ((run ++ rest).map (entry id)).filter (fun e => !inRun e.1) = rest.map (entry id) := by
  intro inRun
  obtain ⟨hrun, -, hbeyond⟩ := List.pairwise_append.1 hasc
  have hlow : ∀ x ∈ run, first.tag ≤ x.tag := by
    obtain ⟨later, rfl⟩ := List.head?_eq_some_iff.1 hfirst
    refine List.forall_mem_cons.2 ⟨Std.le_refl _, fun x hx => Std.le_of_lt ?_⟩
    exact (List.pairwise_cons.1 hrun).1 x hx
  have hhigh : ∀ x ∈ run, x.tag ≤ last.tag := by
    obtain ⟨init, rfl⟩ := List.getLast?_eq_some_iff.1 hlast
    intro x hx
    rcases List.mem_append.1 hx with hx | hx
    · exact Std.le_of_lt ((List.pairwise_append.1 hrun).2.2 x hx last List.mem_cons_self)
    · rw [List.mem_singleton.1 hx]
      exact Std.le_refl _
  have hin : ∀ e ∈ run.map (entry id), inRun e.1 = true := by
    intro e he
    obtain ⟨x, hx, rfl⟩ := List.mem_map.1 he
    exact decide_eq_true ⟨hlow x hx, hhigh x hx⟩
  have hout : ∀ e ∈ rest.map (entry id), inRun e.1 = false := by
    intro e he
    obtain ⟨x, hx, rfl⟩ := List.mem_map.1 he
    have hlt := hbeyond last (List.mem_of_getLast? hlast) x hx
    exact decide_eq_false fun hin => Std.not_le.2 hlt hin.2
  rw [List.map_append]
  exact @filter_middle _ (fun e : Tag × Settlement => inRun e.1) [] _ _ hin hout

/-- Beyond the first tag stands the rest. -/
theorem filter_beyond {x : Settlement} {l : List Settlement} (hasc : Ascending (x :: l))
    (hx : x.tag.toNat + 1 < UInt64.size) :
    ((x :: l).map (entry id)).filter (fun e => decide (x.tag + 1 ≤ e.1)) = l.map (entry id) := by
  have hlt := InFlight.lt_next (next?_eq hx)
  have hfirst : ¬ decide (x.tag + 1 ≤ (entry id x).1) = true := fun hle =>
    Std.not_le.2 ((hlt x.tag).2 (Std.le_refl _)) (of_decide_eq_true hle)
  rw [List.map_cons, List.filter_cons, if_neg hfirst]
  refine List.filter_eq_self.2 fun e he => decide_eq_true (Std.not_lt.1 fun hle => ?_)
  obtain ⟨y, hy, rfl⟩ := List.mem_map.1 he
  exact Std.not_le.2 ((List.pairwise_cons.1 hasc).1 y hy) ((hlt y.tag).1 hle)

/-- A turn takes out what it finds up to the end of the run. -/
theorem flushTurn_run {p : Dict Tag Settlement} (h : Tagged p) {x last : Settlement}
    {more rest : List Settlement} (hvalues : p.values = (x :: more) ++ rest)
    (hsettled : x.ruling ≠ .withhold)
    (hend : runEnd x.ruling x.tag ((more ++ rest).map (entry id)) = some last.tag)
    (hlast : (x :: more).getLast? = some last) :
    ∃ left, flushTurn p = .took (x :: more) left ∧ Tagged left ∧ left.values = rest := by
  have hentries : p.entries = ((x :: more) ++ rest).map (entry id) := hvalues ▸ h.entries_eq
  have hasc : Ascending ((x :: more) ++ rest) := hvalues ▸ h.ascending
  have hx : x.tag.toNat + 1 < UInt64.size := h.below_values x (hvalues ▸ List.mem_cons_self)
  have hbeyond := filter_beyond (l := more ++ rest) hasc hx
  obtain ⟨hin, hout⟩ := filter_run hasc rfl hlast
  let inRun (t : Tag) := decide (x.tag ≤ t ∧ t ≤ last.tag)
  have hrun : (p.keep fun t _ => inRun t).values = x :: more := by
    rw [Dict.values, Dict.entries_keep, hentries]
    exact (congrArg (List.map Prod.snd) hin).trans (map_snd_entry _)
  have hleft : (p.keep fun t _ => !inRun t).values = rest := by
    rw [Dict.values, Dict.entries_keep, hentries]
    exact (congrArg (List.map Prod.snd) hout).trans (map_snd_entry _)
  refine ⟨p.keep fun t _ => !inRun t, ?_, h.keep _, hleft⟩
  rw [List.cons_append, List.map_cons] at hentries
  rw [List.map_cons] at hbeyond
  rw [← hrun, flushTurn, hentries]
  dsimp only [entry, id] at hbeyond hend ⊢
  rw [if_neg hsettled, next?_eq hx]
  dsimp only
  rw [hbeyond, hend]

/-- What a turn is made of: a run of settled members that cannot go on. -/
structure Taken (p : Dict Tag Settlement) (run : List Settlement) (left : Dict Tag Settlement) :
    Prop where
  split : p.values = run ++ left.values
  tagged : Tagged left
  nonempty : run ≠ []
  settles : ∀ x ∈ run, x.settles = true
  chain : run.IsChain fun x y => x.continues y = true
  stops : ∀ x ∈ run.getLast?, ∀ y ∈ left.values.head?, x.continues y = false

/-- A turn takes out a run that is settled, unless nothing settled stands at the front. -/
theorem flushTurn_eq {p : Dict Tag Settlement} (h : Tagged p) :
    (flushTurn p = .over ∧ ∀ x ∈ p.values.head?, x.settles = false)
      ∨ ∃ run left, flushTurn p = .took run left ∧ Taken p run left := by
  have hentries := h.entries_eq
  rcases hvalues : p.values with _ | ⟨x, l⟩
  · rw [hvalues] at hentries
    exact .inl ⟨by rw [flushTurn, hentries]; rfl, by simp⟩
  · rw [hvalues] at hentries
    by_cases hwithheld : x.ruling = .withhold
    · left
      refine ⟨?_, fun y hy => ?_⟩
      · rw [flushTurn, hentries]
        exact if_pos hwithheld
      · obtain rfl := Option.some.inj hy
        simp [Settlement.settles, Ruling.settles, hwithheld]
    · right
      -- The run ends before `rest`, whose first member does not continue it.
      obtain ⟨more, rest, last, rfl, hend, hlast, hchain, hstop⟩ :=
        runEnd_eq (hvalues ▸ h.below_values)
      obtain ⟨left, hturn, htagged, hleft⟩ := flushTurn_run h hvalues hwithheld hend hlast
      refine ⟨_, left, hturn, hleft ▸ hvalues, htagged, List.cons_ne_nil _ _, fun y hy => ?_, hchain,
        fun y hy => ?_⟩
      · rw [Settlement.settles, ruling_of_continues hchain y hy]
        simpa [Ruling.settles] using hwithheld
      · obtain rfl := Option.some.inj (hlast.symm.trans hy)
        exact hleft ▸ hstop

section Front

variable {p left : Dict Tag Settlement} {run : List Settlement}

theorem flushFront_over (h : flushTurn p = .over) : flushFront p = some ([], p) := by
  rw [flushFront]
  split <;> simp_all

theorem flushFront_took (h : flushTurn p = .took run left) :
    flushFront p = (flushFront left).map fun r => (run :: r.1, r.2) := by
  conv_lhs => rw [flushFront]
  split <;> simp_all

theorem none_settled_first {l : List Settlement} (h : ∀ x ∈ l.head?, x.settles = false) :
    l.takeWhile Settlement.settles = [] ∧ l.dropWhile Settlement.settles = l := by
  rcases l with _ | ⟨x, l⟩
  · exact ⟨rfl, rfl⟩
  · have hx : ¬ x.settles = true := Bool.eq_false_iff.1 (h x rfl)
    exact ⟨List.takeWhile_cons_of_neg hx, List.dropWhile_cons_of_neg hx⟩

/-- What is settled below the first withheld tag starts with the run that a turn takes out. -/
theorem Taken.splitBy (h : Taken p run left) :
    (p.values.takeWhile Settlement.settles).splitBy Settlement.continues
      = run :: (left.values.takeWhile Settlement.settles).splitBy Settlement.continues := by
  have hapart : ∀ x ∈ run.getLast?, ∀ y ∈ (left.values.takeWhile Settlement.settles).head?,
      x.continues y = false := by
    intro x hx y hy
    rw [List.head?_takeWhile] at hy
    exact h.stops x hx y (Option.mem_filter_iff.1 hy).1
  rw [h.split, List.takeWhile_append_of_pos h.settles, List.splitBy_append hapart,
    List.splitBy_of_isChain h.nonempty h.chain, List.singleton_append]

end Front

/-- The turns take out the runs below the first withheld tag and leave what stands above. -/
theorem flushFront_eq {p : Dict Tag Settlement} (h : Tagged p) : ∃ left,
    flushFront p
        = some ((p.values.takeWhile Settlement.settles).splitBy Settlement.continues, left)
      ∧ Tagged left ∧ left.values = p.values.dropWhile Settlement.settles := by
  rcases flushTurn_eq h with ⟨hover, hfirst⟩ | ⟨run, left, htook, htaken⟩
  · obtain ⟨htake, hdrop⟩ := none_settled_first hfirst
    exact ⟨p, by rw [flushFront_over hover, htake, List.splitBy_nil], h, hdrop.symm⟩
  · obtain ⟨left', hfront, htagged, hleft⟩ := flushFront_eq htaken.tagged
    refine ⟨left', ?_, htagged, ?_⟩
    · rw [flushFront_took htook, hfront, htaken.splitBy]
      rfl
    · rw [hleft, htaken.split, List.dropWhile_append_of_pos htaken.settles]
termination_by p.size
decreasing_by exact size_flushTurn htook

theorem values_keep (p : Dict Tag Settlement) (f : Settlement → Bool) :
    (p.keep fun _ x => f x).values = p.values.filter f := by
  unfold Dict.values
  rw [List.filter_map]
  rfl

/-- The turns come to what a session reports, and leave what is withheld. -/
theorem flush_eq (mode : Reporting) {p : Dict Tag Settlement} (h : Tagged p) :
    flush mode p = some (reports mode p.values, p.keep fun _ x => !x.settles) := by
  cases mode with
  | individual => rfl
  | cumulative =>
    obtain ⟨left, hfront, htagged, hleft⟩ := flushFront_eq h
    have hkept : left.keep (fun _ x => !x.settles) = p.keep fun _ x => !x.settles := by
      refine (htagged.keep _).ext (h.keep _) ?_
      rw [values_keep, values_keep, hleft, filter_dropWhile_settles]
    unfold flush
    rw [hfront]
    dsimp only
    rw [Option.map_some, hkept, hleft]
    rfl

end ConfirmedDelivery.Broker
