import ConfirmedDelivery.Proofs.Broker.Flushing
import ConfirmedDelivery.Proofs.Broker.Passes

/-!
# What a flush comes to

A pass takes out all that is settled, tells it by ascending tag and leaves what is withheld
(`Flushed`). Where runs are told at once, the confirms are as few as they can be: a cut of the same
settlements into other runs has as many or more (`length_splitBy_le`), and runs next to each other
cannot be made into one (`Collapsed`).
-/

namespace ConfirmedDelivery.Broker

/-! ## Cuts -/

section Cuts

variable {α : Type} {r : α → α → Bool}

/-- A chain that goes on in what follows it makes the first run there longer. -/
theorem splitBy_append_joined {c m : List α} (hc : c.IsChain fun x y => r x y = true) {x y : α}
    (hx : x ∈ c.getLast?) (hy : y ∈ m.head?) (hxy : r x y = true) :
    ∃ g gs, m.splitBy r = g :: gs ∧ (c ++ m).splitBy r = (c ++ g) :: gs := by
  rcases hsplit : m.splitBy r with _ | ⟨g, gs⟩
  · rw [List.splitBy_eq_nil.1 hsplit] at hy
    exact nomatch hy
  · obtain ⟨hflat, hne, hchains, hbreaks⟩ := List.splitBy_eq_iff.1 hsplit
    obtain ⟨hg, hgs⟩ := not_or.1 (List.mem_cons.not.1 hne)
    obtain ⟨hchain, hrest⟩ := List.forall_mem_cons.1 hchains
    obtain ⟨hbreak, hlater⟩ := List.isChain_cons.1 hbreaks
    have hhead : m.head? = g.head? := by
      rw [hflat, List.flatten_cons, List.head?_append_of_ne_nil _ (Ne.symm hg)]
    refine ⟨g, gs, rfl, List.splitBy_eq_iff.2 ⟨?_, ?_, ?_, ?_⟩⟩
    · rw [hflat, List.flatten_cons, List.flatten_cons, List.append_assoc]
    · simp [hgs, Ne.symm hg]
    · refine List.forall_mem_cons.2 ⟨List.isChain_append.2 ⟨hc, hchain, ?_⟩, hrest⟩
      intro x' hx' y' hy'
      rw [← hhead] at hy'
      rwa [Option.mem_unique hx' hx, Option.mem_unique hy' hy]
    · refine List.isChain_cons.2 ⟨fun next hnext => ?_, hlater⟩
      obtain ⟨ha, hb, hfalse⟩ := hbreak next hnext
      exact ⟨List.append_ne_nil_of_right_ne_nil c ha, hb, by
        rwa [List.getLast_append_of_ne_nil _ ha]⟩

theorem length_splitBy_append_le {c : List α} (hc : c.IsChain fun x y => r x y = true)
    (m : List α) : ((c ++ m).splitBy r).length ≤ (m.splitBy r).length + 1 := by
  by_cases hgoes : ∀ x ∈ c.getLast?, ∀ y ∈ m.head?, r x y = false
  · rw [List.splitBy_append hgoes, List.length_append, Nat.add_comm]
    rcases eq_or_ne c [] with rfl | hne
    · simp
    · rw [List.splitBy_of_isChain hne hc, List.length_singleton]
  · -- The chain goes on in the first run of `m`, so there is no new run.
    obtain ⟨x, hx, y, hy, hxy⟩ : ∃ x ∈ c.getLast?, ∃ y ∈ m.head?, r x y = true := by
      simpa using hgoes
    obtain ⟨g, gs, hm, hjoined⟩ := splitBy_append_joined hc hx hy hxy
    rw [hjoined, hm]
    exact Nat.le_succ _

/-- No cut into chains has fewer parts than the one into the longest. -/
theorem length_splitBy_le : ∀ {cut : List (List α)},
    (∀ c ∈ cut, c.IsChain fun x y => r x y = true) → (cut.flatten.splitBy r).length ≤ cut.length
  | [], _ => Nat.le_refl 0
  | c :: cut, h => by
    obtain ⟨hc, hcut⟩ := List.forall_mem_cons.1 h
    exact (length_splitBy_append_le hc cut.flatten).trans (Nat.succ_le_succ (length_splitBy_le hcut))

end Cuts

/-! ## What a flush does -/

/-- Whether `y` has the tag after that of `x` and the same ruling. -/
def Settlement.Precedes (x y : Settlement) : Prop :=
  y.tag.toNat = x.tag.toNat + 1 ∧ y.ruling = x.ruling

theorem continues_of_precedes {x y : Settlement} (h : x.Precedes y) : x.continues y = true := by
  have hbelow : x.tag.toNat + 1 < 2 ^ 64 := h.1 ▸ y.tag.toNat_lt
  have htag : y.tag = x.tag + 1 := by
    refine UInt64.toNat_inj.1 (h.1.trans ?_)
    rw [UInt64.toNat_add]
    exact (Nat.mod_eq_of_lt hbelow).symm
  simp [Settlement.continues, htag, h.2]

theorem precedes_of_continues {x y : Settlement} (hbelow : x.tag.toNat + 1 < UInt64.size)
    (h : x.continues y = true) : x.Precedes y := by
  simp only [Settlement.continues, Bool.and_eq_true, beq_iff_eq, decide_eq_true_eq] at h
  refine ⟨?_, h.2⟩
  rw [h.1, UInt64.toNat_add]
  exact Nat.mod_eq_of_lt hbelow

/-- The runs that are told by one confirm each: what is pending below the first withheld tag, cut
into the longest runs there are. -/
structure Collapsed (p : Dict Tag Settlement) (front : List (List Settlement)) : Prop where
  below : ∀ x, x ∈ front.flatten
    ↔ x ∈ p.values ∧ ∀ w ∈ p.values, w.ruling = .withhold → x.tag < w.tag
  runs : ∀ run ∈ front, run.IsChain Settlement.Precedes
  /-- Neighbours have different rulings, or there is a gap between them. -/
  apart : front.IsChain fun run next => ∀ x ∈ run.getLast?, ∀ y ∈ next.head?,
    y.ruling ≠ x.ruling ∨ x.tag.toNat + 1 < y.tag.toNat
  /-- No other cut into runs has fewer. -/
  fewest : ∀ cut : List (List Settlement), cut.flatten = front.flatten →
    (∀ run ∈ cut, run.IsChain Settlement.Precedes) → front.length ≤ cut.length

/-- What a flush takes out of a map of pending settlements, and what it leaves. -/
structure Flushed (mode : Reporting) (p : Dict Tag Settlement) (runs : List (List Settlement))
    (left : Dict Tag Settlement) : Prop where
  /-- What is withheld is left, and nothing else. -/
  left : ∀ t x, left.get? t = some x ↔ p.get? t = some x ∧ x.ruling = .withhold
  /-- Everything else is taken out once, by ascending tag. -/
  all : runs.flatten = p.values.filter fun x => x.ruling ≠ .withhold
  /-- Each run has one ruling and is told by a confirm at its last tag. -/
  told : ∀ run ∈ runs, ∃ x, run.getLast? = some x ∧ (∀ y ∈ run, y.ruling = x.ruling)
    ∧ confirmOf run = some ⟨⟨x.tag, decide (1 < run.length)⟩, x.ruling.verdict⟩
  ascending : (runs.filterMap confirmOf).Pairwise fun c c' => c.tag < c'.tag
  individual : mode = .individual → ∀ run ∈ runs, run.length = 1
  /-- What stands above the first withheld tag is told one by one. -/
  cumulative : mode = .cumulative → ∃ front above, runs = front ++ above ∧ Collapsed p front
    ∧ ∀ run ∈ above, run.length = 1

theorem settles_iff {x : Settlement} : x.settles = true ↔ x.ruling ≠ .withhold := by
  simp [Settlement.settles, Ruling.settles]

/-- Settled below the first withheld tag is what stands below every withheld one. -/
theorem mem_takeWhile_settles : ∀ {l : List Settlement}, Ascending l → ∀ x,
    x ∈ l.takeWhile Settlement.settles
      ↔ x ∈ l ∧ ∀ w ∈ l, w.ruling = .withhold → x.tag < w.tag
  | [], _, x => by simp
  | y :: l, hasc, x => by
    obtain ⟨hbeyond, hl⟩ := List.pairwise_cons.1 hasc
    by_cases hy : y.settles = true
    · have hyl : ∀ w ∈ l, w.ruling = .withhold → y.tag < w.tag := fun w hw _ => hbeyond w hw
      rw [List.takeWhile_cons_of_pos hy, List.mem_cons, mem_takeWhile_settles hl,
        List.forall_mem_cons, List.mem_cons]
      have hsettled := settles_iff.1 hy
      constructor
      · rintro (rfl | ⟨hx, hlow⟩)
        · exact ⟨.inl rfl, fun hwithheld => absurd hwithheld hsettled, hyl⟩
        · exact ⟨.inr hx, fun hwithheld => absurd hwithheld hsettled, hlow⟩
      · rintro ⟨rfl | hx, -, hlow⟩
        · exact .inl rfl
        · exact .inr ⟨hx, hlow⟩
    · have hwithheld := not_not.1 (settles_iff.not.1 hy)
      rw [List.takeWhile_cons_of_neg hy]
      refine iff_of_false List.not_mem_nil fun ⟨hx, hlow⟩ => ?_
      have hlt := hlow y List.mem_cons_self hwithheld
      rcases List.mem_cons.1 hx with rfl | hx
      · exact Std.lt_irrefl hlt
      · exact Std.lt_irrefl (Std.lt_trans hlt (hbeyond x hx))

theorem collapsed_splitBy {p : Dict Tag Settlement} (h : Tagged p) :
    Collapsed p ((p.values.takeWhile Settlement.settles).splitBy Settlement.continues) := by
  have hflat := List.flatten_splitBy Settlement.continues (p.values.takeWhile Settlement.settles)
  have hbelow : ∀ x ∈ p.values.takeWhile Settlement.settles, x.tag.toNat + 1 < UInt64.size :=
    fun x hx => h.below_values x (List.takeWhile_subset _ hx)
  have hasc : Ascending (p.values.takeWhile Settlement.settles) :=
    h.ascending.sublist (List.takeWhile_sublist _)
  refine ⟨fun x => ?_, fun run hrun => ?_, ?_, fun cut hcut hruns => ?_⟩
  · rw [hflat]
    exact mem_takeWhile_settles h.ascending x
  · refine (List.isChain_of_mem_splitBy hrun).imp_of_mem_imp fun x y hx _ hxy => ?_
    refine precedes_of_continues (hbelow x ?_) hxy
    rw [← hflat]
    exact List.mem_flatten.2 ⟨run, hrun, hx⟩
  · have hbreaks := List.isChain_getLast_head_splitBy Settlement.continues
      (p.values.takeWhile Settlement.settles)
    have hbefore := (List.pairwise_flatten.1 (hflat.symm ▸ hasc)).2
    refine List.isChain_iff_getElem.2 fun i hi x hx y hy => ?_
    obtain ⟨ha, hb, hstops⟩ := List.isChain_iff_getElem.1 hbreaks i hi
    obtain rfl := Option.some.inj ((List.getLast?_eq_some_getLast ha).symm.trans hx)
    obtain rfl := Option.some.inj ((List.head?_eq_some_head hb).symm.trans hy)
    have hlt := List.pairwise_iff_getElem.1 hbefore i (i + 1) _ hi (Nat.lt_succ_self i)
      _ (List.getLast_mem ha) _ (List.head_mem hb)
    rw [UInt64.lt_iff_toNat_lt] at hlt
    -- With the same ruling and no gap the run would have gone on.
    by_contra hnot
    obtain ⟨hruling, hgap⟩ := not_or.1 hnot
    rw [continues_of_precedes ⟨by omega, not_not.1 hruling⟩] at hstops
    exact Bool.noConfusion hstops
  · rw [hflat] at hcut
    rw [← hcut]
    exact length_splitBy_le fun run hrun => (hruns run hrun).imp fun _ _ => continues_of_precedes

theorem flushed_reports (mode : Reporting) {p : Dict Tag Settlement} (h : Tagged p) :
    Flushed mode p (reports mode p.values) (p.keep fun _ x => !x.settles) where
  left t x := by
    rw [Dict.get?_eq_some, Dict.get?_eq_some, Dict.entries_keep, List.mem_filter, Bool.not_eq_true',
      ← Bool.not_eq_true, settles_iff, not_not]
  all := by
    rw [flatten_reports]
    refine List.filter_congr fun x _ => ?_
    rw [Bool.eq_iff_iff, settles_iff, decide_eq_true_eq]
  told run hrun := by
    have huniform := uniform_reports mode p.values run hrun
    obtain ⟨c, hc⟩ := huniform.confirmOf
    obtain ⟨x, hx, rfl⟩ := last_of_confirmOf hc
    exact ⟨x, hx, fun y hy => huniform.ruling y hy x (List.mem_of_getLast? hx), hc⟩
  ascending := by
    refine ascending_confirms ?_
    rw [flatten_reports]
    exact h.ascending.filter _
  individual hmode run hrun := by
    subst hmode
    obtain ⟨x, -, rfl⟩ := List.mem_map.1 hrun
    rfl
  cumulative hmode := by
    subst hmode
    refine ⟨_, _, rfl, collapsed_splitBy h, fun run hrun => ?_⟩
    obtain ⟨x, -, rfl⟩ := List.mem_map.1 hrun
    rfl

theorem keyed_foldl_insert : ∀ (xs : List Settlement) {p : Dict Tag Settlement},
    (∀ e ∈ p.entries, e.1 = e.2.tag) →
    ∀ e ∈ (xs.foldl (fun p x => p.insert x.tag x) p).entries, e.1 = e.2.tag
  | [], _, h => h
  | x :: xs, p, h => by
    refine keyed_foldl_insert xs fun e he => ?_
    rcases Dict.mem_entries_insert.1 he with rfl | ⟨he, -⟩
    · rfl
    · exact h e he

/-- A pass flushes what is pending, whatever gaps there are in it and whatever the rulings: turn by
turn all that is settled is taken out, and that is what is told and no longer counted. That
settlements stand under their own tags is so in whatever a broker comes to (`Answering.keyed`). -/
theorem passFirst_flushes {b : Broker} {n : Nat} {s : Session} (hs : b.session? n = some s)
    (k : Nat) (hkeyed : ∀ e ∈ s.pending.entries, e.1 = e.2.tag)
    (hbelow : ∀ e ∈ (s.accept k).pending.entries, e.1.toNat + 1 < UInt64.size) :
    let p := (s.accept k).pending
    let settled := (p.values.filter fun x => x.ruling ≠ .withhold).length
    ∃ runs left s', flush s.reporting p = some (runs, left)
      ∧ Flushed s.reporting p runs left
      ∧ (b.passFirst k n).1.session? n = some s' ∧ s'.pending = left
      ∧ (settled ≤ s.unconfirmed → s'.unconfirmed + settled = s.unconfirmed)
      ∧ (b.passFirst k n).1.confirms
        = b.confirms ++ (runs.filterMap confirmOf).map (ConfirmRecord.mk n)
      ∧ (b.passFirst k n).2 = heardBy n s.listener (runs.filterMap confirmOf) := by
  intro p settled
  have htagged : Tagged p := ⟨keyed_foldl_insert _ hkeyed, hbelow⟩
  have hflushed := flushed_reports s.reporting htagged
  have hcount : (p.values.filter Settlement.settles).length = settled := by
    rw [← flatten_reports s.reporting, hflushed.all]
  refine ⟨_, _, s.passed k, flush_eq s.reporting htagged, hflushed, ?_, rfl, fun hle => ?_, ?_, ?_⟩
  · rw [passFirst_exact hs, session?_change, if_pos rfl, hs, Option.map_some]
  · change s.unconfirmed - (p.values.filter Settlement.settles).length + settled = _
    rw [hcount]
    exact Nat.sub_add_cancel hle
  · rw [passFirst_exact hs]
    rfl
  · rw [passFirst_exact hs]
    rfl

/-- A settlement of a message of no content. -/
def settlementUnder (tag : Tag) (ruling : Ruling) : Settlement :=
  ⟨ruling, ⟨1, tag, "q", 1, ⟨true, "", "", 1, ∅⟩, .empty⟩⟩

/-- A session that reports runs, with gaps in what is pending. -/
def gappy : Session :=
  { Session.opened Script.ackAll with
    confirming := true
    reporting := .cumulative
    unconfirmed := 8
    pending := Dict.ofList ([(2, .ack), (3, .ack), (5, .ack), (6, .nack), (7, .nack), (9, .withhold),
      (10, .ack), (11, .ack)].map fun e => (e.1, settlementUnder e.1 e.2)) }

theorem passFirst_flushes_gappy :
    (({ start with sessions := [gappy] } : Broker).passFirst 0 1).1.confirms
        = [⟨1, .ack 3 true⟩, ⟨1, .ack 5 false⟩, ⟨1, .nack 7 true⟩, ⟨1, .ack 10 false⟩,
          ⟨1, .ack 11 false⟩]
      ∧ ∃ runs left s', flush .cumulative gappy.pending = some (runs, left)
        ∧ Flushed .cumulative gappy.pending runs left
        ∧ (({ start with sessions := [gappy] } : Broker).passFirst 0 1).1.session? 1 = some s'
        ∧ s'.pending = left ∧ s'.unconfirmed + 7 = 8 := by
  obtain ⟨runs, left, s', hflush, hflushed, hs', hleft, hcount, -⟩ := passFirst_flushes
    (b := { start with sessions := [gappy] }) (n := 1) (s := gappy) rfl 0
    (by decide +kernel) (by decide +kernel)
  have hsettled : (gappy.pending.values.filter fun x => x.ruling ≠ .withhold).length = 7 := by
    decide +kernel
  refine ⟨by decide +kernel, runs, left, s', hflush, hflushed, hs', hleft, ?_⟩
  rw [← hsettled]
  exact hcount (by decide +kernel)

end ConfirmedDelivery.Broker
