import ConfirmedDelivery.Broker.Session
import ConfirmedDelivery.Proofs.Books
import Mathlib.Data.List.SplitBy
import Mathlib.Data.List.TakeWhile

/-!
# Reports settle what they are about

A pass reports runs. Every run has one ruling, and together the runs are all that is settled
(`uniform_reports`, `flatten_reports`). The confirm of a run covers the run and nothing else of
what is still in flight, because the run stands at the front or is reported on its own (`Peels`).
So books with the same tags in flight take every message to the side of its ruling and leave what
is withheld (`handleAll_reports`).
-/

namespace ConfirmedDelivery.Broker

/-- Something to report, all of it with one ruling. -/
structure Uniform (run : List Settlement) : Prop where
  nonempty : run ≠ []
  settles : ∀ x ∈ run, x.settles = true
  ruling : ∀ x ∈ run, ∀ y ∈ run, x.ruling = y.ruling

theorem uniform_single {x : Settlement} (h : x.settles = true) : Uniform [x] where
  nonempty := List.cons_ne_nil _ _
  settles y hy := by rwa [List.mem_singleton.1 hy]
  ruling y hy z hz := by rw [List.mem_singleton.1 hy, List.mem_singleton.1 hz]

theorem verdict_acked {r : Ruling} (h : r.settles = true) : r.verdict = .acked ↔ r = .ack := by
  cases r <;> simp_all [Ruling.settles, Ruling.verdict]

theorem verdict_nacked {r : Ruling} : r.verdict = .nacked ↔ r = .nack := by
  cases r <;> simp [Ruling.verdict]

namespace Uniform

variable {run : List Settlement} {x : Settlement}

theorem confirmOf (h : Uniform run) : ∃ c, Broker.confirmOf run = some c := by
  rcases hc : Broker.confirmOf run with _ | c
  · unfold Broker.confirmOf at hc
    rw [Option.map_eq_none_iff] at hc
    exact absurd (List.getLast?_eq_none_iff.1 hc) h.nonempty
  · exact ⟨c, rfl⟩

theorem countP_ack (h : Uniform run) (hx : x ∈ run) :
    run.countP (fun y => y.ruling = .ack) = if x.ruling.verdict = .acked then run.length else 0 := by
  simp only [verdict_acked (h.settles x hx)]
  split_ifs with hack
  · exact List.countP_eq_length.2 fun y hy => decide_eq_true ((h.ruling y hy x hx).trans hack)
  · refine List.countP_eq_zero.2 fun y hy hyack => hack ?_
    exact (h.ruling x hx y hy).trans (of_decide_eq_true hyack)

theorem filter_nack (h : Uniform run) (hx : x ∈ run) :
    run.filter (fun y => y.ruling = .nack) = if x.ruling.verdict = .nacked then run else [] := by
  simp only [verdict_nacked]
  split_ifs with hnack
  · exact List.filter_eq_self.2 fun y hy => decide_eq_true ((h.ruling y hy x hx).trans hnack)
  · refine List.filter_eq_nil_iff.2 fun y hy hynack => hnack ?_
    exact (h.ruling x hx y hy).trans (of_decide_eq_true hynack)

end Uniform

/-- A run whose members go on each other has one ruling. -/
theorem ruling_of_continues : ∀ {run : List Settlement} {x : Settlement},
    (x :: run).IsChain (fun x y => x.continues y = true) → ∀ y ∈ x :: run, y.ruling = x.ruling
  | [], x, _, y, hy => by rw [List.mem_singleton.1 hy]
  | z :: rest, x, hchain, y, hy => by
    obtain ⟨hxz, hrest⟩ := List.isChain_cons_cons.1 hchain
    have hz : z.ruling = x.ruling := by
      unfold Settlement.continues at hxz
      rw [Bool.and_eq_true, decide_eq_true_eq] at hxz
      exact hxz.2
    rcases List.mem_cons.1 hy with rfl | hy
    · rfl
    · exact (ruling_of_continues hrest y hy).trans hz

section Reports

variable (mode : Reporting) (pending : List Settlement)

theorem uniform_reports : ∀ run ∈ reports mode pending, Uniform run := by
  have hsingles : ∀ l : List Settlement, ∀ run ∈ (l.filter Settlement.settles).map (fun s => [s]),
      Uniform run := by
    intro l run hrun
    obtain ⟨x, hx, rfl⟩ := List.mem_map.1 hrun
    exact uniform_single (List.mem_filter.1 hx).2
  intro run hrun
  cases mode with
  | individual => exact hsingles pending run hrun
  | cumulative =>
    rcases List.mem_append.1 hrun with hrun | hrun
    · refine ⟨List.ne_nil_of_mem_splitBy hrun, fun x hx => ?_, fun x hx y hy => ?_⟩
      · have hmem : x ∈ pending.takeWhile Settlement.settles := by
          rw [← List.flatten_splitBy Settlement.continues (pending.takeWhile _)]
          exact List.mem_flatten.2 ⟨run, hrun, hx⟩
        exact List.mem_takeWhile_imp hmem
      · have hchain := List.isChain_of_mem_splitBy hrun
        rcases run with _ | ⟨z, run⟩
        · exact absurd hx List.not_mem_nil
        · rw [ruling_of_continues hchain x hx, ruling_of_continues hchain y hy]
    · exact hsingles _ run hrun

/-- The runs are all that is settled, in order. -/
theorem flatten_reports : (reports mode pending).flatten = pending.filter Settlement.settles := by
  have hsingles : ∀ l : List Settlement, (l.map fun s => [s]).flatten = l := by
    intro l
    rw [← List.flatMap_def, List.flatMap_singleton']
  cases mode with
  | individual => exact hsingles _
  | cumulative =>
    have htake : (pending.takeWhile Settlement.settles).filter Settlement.settles
        = pending.takeWhile Settlement.settles :=
      List.filter_eq_self.2 fun x hx => List.mem_takeWhile_imp hx
    rw [reports, List.flatten_append, List.flatten_splitBy, hsingles]
    conv_rhs => rw [← List.takeWhile_append_dropWhile (p := Settlement.settles) (l := pending)]
    rw [List.filter_append, htake]

end Reports

/-- Runs that can be taken out of a list one after another: each is at its front or has one member
only. -/
inductive Peels : List Settlement → List (List Settlement) → List Settlement → Prop where
  | none (l : List Settlement) : Peels l [] l
  | run {front run back later : List Settlement} {runs : List (List Settlement)} :
    Uniform run → front = [] ∨ run.length = 1 → Peels (front ++ back) runs later →
    Peels (front ++ run ++ back) (run :: runs) later

theorem peels_singles : ∀ front back : List Settlement,
    Peels (front ++ back) ((back.filter Settlement.settles).map fun s => [s])
      (front ++ back.filter fun x => !x.settles)
  | front, [] => by
    simp only [List.filter_nil, List.map_nil]
    exact .none _
  | front, x :: back => by
    cases hx : x.settles with
    | true =>
      have h := Peels.run (uniform_single hx) (.inr rfl) (peels_singles front back)
      simpa [List.filter_cons, hx] using h
    | false =>
      have h := peels_singles (front ++ [x]) back
      simpa [List.filter_cons, hx] using h

theorem peels_runs {back later : List Settlement} {singles : List (List Settlement)}
    (h : Peels back singles later) : ∀ {runs : List (List Settlement)},
    (∀ run ∈ runs, Uniform run) → Peels (runs.flatten ++ back) (runs ++ singles) later
  | [], _ => h
  | run :: runs, hruns => by
    have ih := peels_runs h fun r hr => hruns r (List.mem_cons_of_mem _ hr)
    have hrun := hruns run List.mem_cons_self
    have hpeels : Peels ([] ++ run ++ (runs.flatten ++ back)) (run :: (runs ++ singles)) later :=
      .run hrun (.inl rfl) ih
    simpa using hpeels

/-- Below the first withheld settlement nothing is withheld. -/
theorem filter_dropWhile_settles (l : List Settlement) :
    (l.dropWhile Settlement.settles).filter (fun x => !x.settles) = l.filter fun x => !x.settles := by
  have hnone : (l.takeWhile Settlement.settles).filter (fun x => !x.settles) = [] :=
    List.filter_eq_nil_iff.2 fun x hx => by simp [List.mem_takeWhile_imp hx]
  conv_rhs => rw [← List.takeWhile_append_dropWhile (p := Settlement.settles) (l := l)]
  rw [List.filter_append, hnone, List.nil_append]

theorem peels_reports (mode : Reporting) (pending : List Settlement) :
    Peels pending (reports mode pending) (pending.filter fun x => !x.settles) := by
  cases mode with
  | individual => exact peels_singles [] pending
  | cumulative =>
    have hruns := uniform_reports .cumulative pending
    have h := peels_runs (peels_singles [] (pending.dropWhile Settlement.settles))
      fun run hrun => hruns run (List.mem_append_left _ hrun)
    rwa [List.flatten_splitBy, List.nil_append, List.nil_append,
      List.takeWhile_append_dropWhile, filter_dropWhile_settles] at h

section Covers

variable {β : Type}

theorem filter_middle {p : β → Bool} {front mid back : List β} (hmid : ∀ x ∈ mid, p x = true)
    (hout : ∀ x ∈ front ++ back, p x = false) :
    (front ++ mid ++ back).filter p = mid
      ∧ (front ++ mid ++ back).filter (fun x => !p x) = front ++ back := by
  have hnone : ∀ l : List β, (∀ x ∈ l, x ∈ front ++ back) →
      l.filter p = [] ∧ l.filter (fun x => !p x) = l := fun l hl =>
    ⟨List.filter_eq_nil_iff.2 fun x hx => by simp [hout x (hl x hx)],
      List.filter_eq_self.2 fun x hx => by simp [hout x (hl x hx)]⟩
  obtain ⟨hfront, hfront'⟩ := hnone front fun _ hx => List.mem_append_left _ hx
  obtain ⟨hback, hback'⟩ := hnone back fun _ hx => List.mem_append_right _ hx
  have hmid' : mid.filter (fun x => !p x) = [] :=
    List.filter_eq_nil_iff.2 fun x hx => by simp [hmid x hx]
  simp only [List.filter_append, List.filter_eq_self.2 hmid, hfront, hback, hfront', hback', hmid',
    List.append_nil, List.nil_append, and_self]

/-- The confirm of a run at the front, or of one with a single member, covers that run only. -/
theorem filter_covers_run {front run back : List (Tag × β)} {e : Tag × β}
    (hsorted : (front ++ run ++ back).Pairwise fun e e' => e.1 < e'.1)
    (hlast : run.getLast? = some e) (hfront : front = [] ∨ run.length = 1) :
    let scope : Scope := ⟨e.1, decide (1 < run.length)⟩
    (front ++ run ++ back).filter (fun e => scope.covers e.1) = run
      ∧ (front ++ run ++ back).filter (fun e => !scope.covers e.1) = front ++ back := by
  intro scope
  obtain ⟨init, rfl⟩ := List.getLast?_eq_some_iff.1 hlast
  obtain ⟨hrun, -, hback⟩ := List.pairwise_append.1 hsorted
  obtain ⟨-, hinit, hmid⟩ := List.pairwise_append.1 hrun
  have hlen : (init ++ [e]).length = init.length + 1 := by simp
  have he : e ∈ init ++ [e] := List.mem_append_right _ (List.mem_singleton.2 rfl)
  refine filter_middle (fun x hx => ?_) fun x hx => ?_
  · unfold Scope.covers
    rcases List.mem_append.1 hx with hx | hx
    · have hmultiple : scope.multiple = true := by
        have := List.length_pos_of_mem hx
        exact decide_eq_true (by omega)
      have hlt := (List.pairwise_append.1 hinit).2.2 x hx e (List.mem_singleton.2 rfl)
      rw [if_pos hmultiple]
      exact decide_eq_true (Std.le_of_lt hlt)
    · rw [List.mem_singleton.1 hx]
      split_ifs
      · exact decide_eq_true (Std.le_refl _)
      · exact beq_self_eq_true _
  · unfold Scope.covers
    rcases List.mem_append.1 hx with hx | hx
    · have hsingle : scope.multiple = false := by
        rcases hfront with rfl | hone
        · exact absurd hx List.not_mem_nil
        · exact decide_eq_false (by omega)
      rw [if_neg (Bool.not_eq_true _ ▸ hsingle)]
      exact beq_eq_false_iff_ne.2 (Std.ne_of_lt (hmid x hx e he))
    · have hlt := hback e (List.mem_append_right _ he) x hx
      split_ifs
      · exact decide_eq_false (Std.not_le.2 hlt)
      · exact beq_eq_false_iff_ne.2 (Std.ne_of_lt hlt).symm

end Covers

section Settle

variable {α β : Type} (f : α → β) (g : Settlement → β)

/-- Everything in flight, of each item what one sees of it. -/
def seen (b : Books α) : List (Tag × β) := b.unanswered.map fun e => (e.1, f e.2)

/-- A settlement as it is seen in flight. -/
def entry (x : Settlement) : Tag × β := (x.tag, g x)

theorem ascending_seen (b : Books α) : (seen f b).Pairwise fun e e' => e.1 < e'.1 :=
  List.pairwise_map.2 b.ascending_unanswered

theorem seen_handle (b : Books α) (c : Confirm) :
    seen f (b.handle c).2 = (seen f b).filter (fun e => !c.covers e.1)
      ∧ (b.handle c).1.map (fun e => (e.1, f e.2)) = (seen f b).filter fun e => c.covers e.1 := by
  unfold seen
  rw [Books.unanswered_handle, Books.handle_fst, List.filter_map, List.filter_map]
  exact ⟨rfl, rfl⟩

/-- What a list of settlements does to the books: the settled ones go to the side of their ruling.
-/
structure Settled (settled : List Settlement) (b b' : Books α) : Prop where
  acked : b'.acked = b.acked + settled.countP fun x => x.ruling = .ack
  rejected : b'.rejected.map f
    = b.rejected.map f ++ (settled.filter fun x => x.ruling = .nack).map g

variable {f g}

theorem settled_nil (b : Books α) : Settled f g [] b b where
  acked := rfl
  rejected := (List.append_nil _).symm

theorem Settled.append {x y : List Settlement} {b b' b'' : Books α} (h : Settled f g x b b')
    (h' : Settled f g y b' b'') : Settled f g (x ++ y) b b'' where
  acked := by rw [h'.acked, h.acked, List.countP_append, Nat.add_assoc]
  rejected := by
    rw [h'.rejected, h.rejected, List.filter_append, List.map_append, List.append_assoc]

/-- The confirm of a run resolves it. -/
theorem resolves_run {front run back : List Settlement} {rest : List (Tag × β)} {b : Books α}
    {c : Confirm} (hc : confirmOf run = some c) (hfront : front = [] ∨ run.length = 1)
    (h : seen f b = (front ++ run ++ back).map (entry g) ++ rest) :
    (b.handle c).1.map (fun e => (e.1, f e.2)) = run.map (entry g)
      ∧ seen f (b.handle c).2 = (front ++ back).map (entry g) ++ rest := by
  obtain ⟨x, hx, rfl⟩ := Option.map_eq_some_iff.1 hc
  have hsplit : seen f b
      = front.map (entry g) ++ run.map (entry g) ++ (back.map (entry g) ++ rest) := by
    rw [h, List.map_append, List.map_append, List.append_assoc _ _ rest]
  have hsorted := ascending_seen f b
  rw [hsplit] at hsorted
  have hlast : (run.map (entry g)).getLast? = some (entry g x) := by
    rw [List.getLast?_map, hx]
    rfl
  have hcovers := filter_covers_run hsorted hlast (by simpa using hfront)
  rw [List.length_map, ← hsplit] at hcovers
  obtain ⟨hkept, hresolved⟩ := seen_handle f b
    ⟨⟨x.tag, decide (1 < run.length)⟩, x.ruling.verdict⟩
  refine ⟨hresolved.trans hcovers.1, ?_⟩
  rw [List.map_append, List.append_assoc]
  exact hkept.trans hcovers.2

/-- The confirm of a run settles it. -/
theorem handle_run {front run back : List Settlement} {rest : List (Tag × β)} {b : Books α}
    (hrun : Uniform run) (hfront : front = [] ∨ run.length = 1)
    (h : seen f b = (front ++ run ++ back).map (entry g) ++ rest) :
    ∃ c, confirmOf run = some c ∧ Settled f g run b (b.handle c).2
      ∧ seen f (b.handle c).2 = (front ++ back).map (entry g) ++ rest := by
  obtain ⟨c, hc⟩ := hrun.confirmOf
  obtain ⟨hresolved, hleft⟩ := resolves_run hc hfront h
  obtain ⟨x, hx, rfl⟩ := Option.map_eq_some_iff.1 hc
  have hmem : x ∈ run := List.mem_of_getLast? hx
  let c : Confirm := ⟨⟨x.tag, decide (1 < run.length)⟩, x.ruling.verdict⟩
  have hlen : (b.handle c).1.length = run.length := by
    simpa using congrArg List.length hresolved
  have hitems : ((b.handle c).1.map Prod.snd).map f = run.map g := by
    simpa [entry, Function.comp_def] using congrArg (List.map Prod.snd) hresolved
  refine ⟨c, hc, ⟨?_, ?_⟩, hleft⟩
  · rw [Books.acked_handle, hrun.countP_ack hmem, hlen]
  · rw [Books.rejected_handle, hrun.filter_nack hmem, List.map_append]
    change _ ++ List.map f (if x.ruling.verdict = .nacked then _ else _) = _
    split_ifs
    · rw [hitems]
    · rfl

/-- Books with all of these settlements in flight take what can be taken out of them to the side of
its ruling; the rest stays. -/
theorem handleAll_peels {rest : List (Tag × β)} :
    ∀ {l later : List Settlement} {runs : List (List Settlement)}, Peels l runs later →
      ∀ {b : Books α}, seen f b = l.map (entry g) ++ rest →
        Settled f g runs.flatten b (b.handleAll (runs.filterMap confirmOf))
          ∧ seen f (b.handleAll (runs.filterMap confirmOf)) = later.map (entry g) ++ rest
  | _, _, _, .none l, b, h => ⟨settled_nil b, h⟩
  | _, _, _, @Peels.run _ run _ _ runs hrun hfront hlater, b, h => by
    obtain ⟨c, hc, hsettled, hseen⟩ := handle_run hrun hfront h
    obtain ⟨hsettled', hseen'⟩ := handleAll_peels hlater hseen
    rw [List.filterMap_cons_some hc, Books.handleAll_cons, List.flatten_cons]
    exact ⟨hsettled.append hsettled', hseen'⟩

/-- What a pass reports takes every message to the side of its ruling and leaves what is withheld.
-/
theorem handleAll_reports (mode : Reporting) {pending : List Settlement} {rest : List (Tag × β)}
    {b : Books α} (h : seen f b = pending.map (entry g) ++ rest) :
    let b' := b.handleAll ((reports mode pending).filterMap confirmOf)
    Settled f g (pending.filter Settlement.settles) b b'
      ∧ seen f b' = (pending.filter fun x => !x.settles).map (entry g) ++ rest := by
  intro b'
  have hpeels := handleAll_peels (peels_reports mode pending) h
  rwa [flatten_reports] at hpeels

end Settle

end ConfirmedDelivery.Broker
