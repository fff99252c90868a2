import ConfirmedDelivery.Proofs.Broker.Reports

/-!
# What confirms speak for

A multiple confirm speaks for every tag up to its own that no confirm before it spoke for, a single
one for its own tag (`spoken`). If the reported runs can be taken out of all that was sent one after
another, then the confirms speak for exactly the runs (`Peels.spoken`), and a run of several members
has nothing below it that is still to be answered (`Peels.level`).
-/

namespace ConfirmedDelivery.Broker

/-- For which tags each confirm speaks, if the tags `left` were sent. -/
def spoken : List Tag → List Confirm → List (Confirm × List Tag)
  | _, [] => []
  | left, c :: cs =>
    (c, if c.multiple then left.filter fun t => c.covers t else [c.tag])
      :: spoken (left.filter fun t => !c.covers t) cs

/-- A run with its confirm. -/
def confirmed (run : List Settlement) : Option (Confirm × List Settlement) :=
  (confirmOf run).map (·, run)

theorem confirmed_of_confirmOf {run : List Settlement} {c : Confirm} (h : confirmOf run = some c) :
    confirmed run = some (c, run) := by
  rw [confirmed, h, Option.map_some]

/-- The confirm of a run is about its last member. -/
theorem last_of_confirmOf {run : List Settlement} {c : Confirm} (h : confirmOf run = some c) :
    ∃ x, run.getLast? = some x ∧ c = ⟨⟨x.tag, decide (1 < run.length)⟩, x.ruling.verdict⟩ := by
  obtain ⟨x, hx, rfl⟩ := Option.map_eq_some_iff.1 h
  exact ⟨x, hx, rfl⟩

/-- Settlements by ascending tag. -/
abbrev Ascending (l : List Settlement) : Prop := l.Pairwise fun x y => x.tag < y.tag

theorem filter_covers {front run back : List Settlement} {c : Confirm}
    (hasc : Ascending (front ++ run ++ back)) (hc : confirmOf run = some c)
    (hfront : front = [] ∨ run.length = 1) :
    (front ++ run ++ back).filter (fun x => c.covers x.tag) = run
      ∧ (front ++ run ++ back).filter (fun x => !c.covers x.tag) = front ++ back := by
  obtain ⟨x, hx, rfl⟩ := last_of_confirmOf hc
  have hlast : (run.map (entry id)).getLast? = some (entry id x) := by
    rw [List.getLast?_map, hx, Option.map_some]
  have hsorted : (front.map (entry id) ++ run.map (entry id) ++ back.map (entry id)).Pairwise
      fun e e' => e.1 < e'.1 := by
    rw [← List.map_append, ← List.map_append]
    exact List.pairwise_map.2 hasc
  have hsnd : ∀ l : List Settlement, (l.map (entry id)).map Prod.snd = l := fun l => by
    rw [List.map_map]
    exact List.map_id l
  have hcut := filter_covers_run hsorted hlast (by simpa using hfront)
  simp only [← List.map_append, List.length_map, List.filter_map] at hcut
  have hcovered := congrArg (List.map Prod.snd) hcut.1
  have hleft := congrArg (List.map Prod.snd) hcut.2
  simp only [hsnd] at hcovered hleft
  exact ⟨hcovered, hleft⟩

section Runs

variable {runs : List (List Settlement)}

theorem exists_of_mem_confirmed {r : Confirm × List Settlement}
    (h : r ∈ runs.filterMap confirmed) : r.2 ∈ runs ∧ confirmOf r.2 = some r.1 := by
  obtain ⟨run, hrun, hr⟩ := List.mem_filterMap.1 h
  obtain ⟨c, hc, rfl⟩ := Option.map_eq_some_iff.1 hr
  exact ⟨hrun, hc⟩

/-- Runs in ascending order are confirmed in ascending order. -/
theorem ascending_confirms (h : Ascending runs.flatten) :
    (runs.filterMap confirmOf).Pairwise fun c c' => c.tag < c'.tag := by
  refine List.Pairwise.filterMap confirmOf (fun run run' hlt c hc c' hc' => ?_)
    (List.pairwise_flatten.1 h).2
  obtain ⟨x, hx, rfl⟩ := last_of_confirmOf hc
  obtain ⟨x', hx', rfl⟩ := last_of_confirmOf hc'
  exact hlt x (List.mem_of_getLast? hx) x' (List.mem_of_getLast? hx')

theorem Uniform.verdict {run : List Settlement} {c : Confirm} {x : Settlement} (h : Uniform run)
    (hc : Broker.confirmOf run = some c) (hx : x ∈ run) : c.verdict = x.ruling.verdict := by
  obtain ⟨y, hy, rfl⟩ := last_of_confirmOf hc
  exact congrArg Ruling.verdict (h.ruling y (List.mem_of_getLast? hy) x hx)

/-- Each member of a run is in one run only. -/
theorem one_confirmed (huniform : ∀ run ∈ runs, Uniform run) (hasc : Ascending runs.flatten)
    {x : Settlement} (hx : x ∈ runs.flatten) :
    ∃ r, ((runs.filterMap confirmed).filter fun r => x.tag ∈ r.2.map Settlement.tag) = [r]
      ∧ r.1.verdict = x.ruling.verdict := by
  induction runs with
  | nil => exact absurd hx List.not_mem_nil
  | cons run runs ih =>
    obtain ⟨hrun, hruns⟩ := List.forall_mem_cons.1 huniform
    obtain ⟨c, hc⟩ := hrun.confirmOf
    obtain ⟨-, hasc', hlt⟩ := List.pairwise_append.1 hasc
    rw [List.filterMap_cons_some (confirmed_of_confirmOf hc)]
    by_cases hmem : x.tag ∈ run.map Settlement.tag
    · have hlater : ∀ y ∈ runs.flatten, x.tag < y.tag := by
        obtain ⟨z, hz, hzx⟩ := List.mem_map.1 hmem
        exact fun y hy => hzx ▸ hlt z hz y hy
      have hxrun : x ∈ run :=
        (List.mem_append.1 hx).resolve_right fun hrest => Std.lt_irrefl (hlater x hrest)
      refine ⟨(c, run), ?_, hrun.verdict hc hxrun⟩
      rw [List.filter_cons_of_pos (by simpa using hmem), List.filter_eq_nil_iff.2]
      rintro r hr hmem'
      obtain ⟨y, hy, hyx⟩ := List.mem_map.1 (of_decide_eq_true hmem')
      have hy' := List.mem_flatten.2 ⟨r.2, (exists_of_mem_confirmed hr).1, hy⟩
      exact Std.ne_of_lt (hlater y hy') hyx.symm
    · have hrest := (List.mem_append.1 hx).resolve_left fun h => hmem (List.mem_map_of_mem h)
      rw [List.filter_cons_of_neg (by simpa using hmem)]
      exact ih hruns hasc' hrest

end Runs

namespace Peels

variable {l later : List Settlement} {runs : List (List Settlement)}

theorem uniform (h : Peels l runs later) : ∀ run ∈ runs, Uniform run := by
  induction h with
  | none => exact fun _ hrun => absurd hrun List.not_mem_nil
  | run hrun _ _ ih =>
    intro r hr
    rcases List.mem_cons.1 hr with rfl | hr
    · exact hrun
    · exact ih r hr

/-- What is sent later stays. -/
theorem append (h : Peels l runs later) (more : List Settlement) :
    Peels (l ++ more) runs (later ++ more) := by
  induction h with
  | none l => exact .none (l ++ more)
  | run hrun hfront _ ih =>
    rw [List.append_assoc] at ih ⊢
    exact .run hrun hfront ih

theorem trans {last : List Settlement} {runs' : List (List Settlement)} (h : Peels l runs later)
    (h' : Peels later runs' last) : Peels l (runs ++ runs') last := by
  induction h with
  | none => exact h'
  | run hrun hfront _ ih => exact .run hrun hfront (ih h')

/-- The confirms of the runs speak for the runs. -/
theorem spoken (h : Peels l runs later) (hasc : Ascending l) :
    Broker.spoken (l.map Settlement.tag) (runs.filterMap confirmOf)
      = (runs.filterMap confirmed).map fun r => (r.1, r.2.map Settlement.tag) := by
  induction h with
  | none => rfl
  | @run front run back later runs hrun hfront _ ih =>
    obtain ⟨c, hc⟩ := hrun.confirmOf
    obtain ⟨hcovered, hleft⟩ := filter_covers hasc hc hfront
    have hfilter : ∀ p : Tag → Bool, ((front ++ run ++ back).map Settlement.tag).filter p
        = ((front ++ run ++ back).filter fun x => p x.tag).map Settlement.tag :=
      fun p => List.filter_map
    have hasc' : Ascending (front ++ back) := hleft ▸ hasc.filter _
    have hsays : (if c.multiple then ((front ++ run ++ back).map Settlement.tag).filter
        (fun t => c.covers t) else [c.tag]) = run.map Settlement.tag := by
      rw [hfilter, hcovered]
      obtain ⟨x, hx, rfl⟩ := last_of_confirmOf hc
      split_ifs with hmany
      · rfl
      · obtain ⟨init, rfl⟩ := List.getLast?_eq_some_iff.1 hx
        have : init = [] := by simpa using hmany
        rw [this]
        rfl
    rw [List.filterMap_cons_some hc, List.filterMap_cons_some (confirmed_of_confirmOf hc),
      Broker.spoken, hsays, hfilter, hleft, ih hasc']
    rfl

/-- A run of several members is reported only when everything below its end is reported with it or
was reported before. -/
theorem level (h : Peels l runs later) (hasc : Ascending l) {run : List Settlement}
    (hrun : run ∈ runs) (hmany : 1 < run.length) {x y : Settlement} (hy : run.getLast? = some y)
    (hx : x ∈ l) (hle : x.tag ≤ y.tag) : x ∈ runs.flatten := by
  induction h with
  | none => exact absurd hrun List.not_mem_nil
  | @run front first back later runs hfirst hfront _ ih =>
    rw [List.flatten_cons, List.mem_append]
    have hmoved : x ∈ first ∨ x ∈ front ++ back := by
      simp only [List.mem_append] at hx ⊢
      tauto
    refine hmoved.imp_right fun hrest => ?_
    have hasc' : Ascending (front ++ back) := by
      refine hasc.sublist ?_
      exact (List.sublist_append_left front first).append (List.Sublist.refl back)
    rcases List.mem_cons.1 hrun with rfl | hrun
    · obtain rfl : front = [] := hfront.resolve_right (by omega)
      have hlt := (List.pairwise_append.1 hasc).2.2 y (List.mem_of_getLast? hy) x hrest
      exact absurd hle (Std.not_le.2 hlt)
    · exact ih hasc' hrun hrest

end Peels

end ConfirmedDelivery.Broker
