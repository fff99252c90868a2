import ConfirmedDelivery.Proofs.Broker.Passes
import ConfirmedDelivery.Proofs.Broker.Spoken
import ConfirmedDelivery.Proofs.Singly

/-!
# Runs told one by one

Where a session reports runs, its log can be read as if it had reported every message by itself: in
place of a multiple confirm stand single ones for the tags that it newly speaks for (`singly`). What
a pass tells in runs is, read so, what it would have told one by one (`Peels.singly`), and to the
books it is the same (`handleAll_peels_singly`).
-/

namespace ConfirmedDelivery.Broker

/-- The confirm of one settlement alone. -/
def Settlement.single (x : Settlement) : Confirm := ⟨⟨x.tag, false⟩, x.ruling.verdict⟩

theorem confirms_individual (pending : List Settlement) :
    (reports .individual pending).filterMap confirmOf
      = (pending.filter Settlement.settles).map Settlement.single := by
  unfold reports
  rw [List.filterMap_map]
  exact congrFun (List.filterMap_eq_map (f := Settlement.single)) _

theorem Uniform.about {run : List Settlement} {c : Confirm} (h : Uniform run)
    (hc : Broker.confirmOf run = some c) :
    (run.map Settlement.tag).map c.about = run.map Settlement.single := by
  rw [List.map_map]
  refine List.map_congr_left fun x hx => ?_
  rw [Function.comp_apply, Confirm.about, h.verdict hc hx]
  rfl

/-! ## The books -/

/-- Books that a confirm makes resolve a run take in the members of the run with the same result. -/
theorem handleAll_single {α β : Type} {f : α → β} {g : Settlement → β} {run : List Settlement}
    {c : Confirm} {b : Books α} (hrun : Uniform run) (hc : confirmOf run = some c)
    (hcurrent : b.Current)
    (hresolved : (b.handle c).1.map (fun e => (e.1, f e.2)) = run.map (entry g)) :
    b.handleAll (run.map Settlement.single) = (b.handle c).2 := by
  have htags : (b.handle c).1.map Prod.fst = run.map Settlement.tag := by
    simpa [entry, Function.comp_def] using congrArg (List.map Prod.fst) hresolved
  rw [← hrun.about hc, ← htags, List.map_map]
  exact Books.handle_singly _ hcurrent (Books.handle_fst ..).symm

/-- Books that have all of these settlements in flight take in the confirms of runs as they would
take in single ones. -/
theorem handleAll_peels_singly {α β : Type} {f : α → β} {g : Settlement → β}
    {rest : List (Tag × β)} :
    ∀ {l later : List Settlement} {runs : List (List Settlement)}, Peels l runs later →
      ∀ {b : Books α}, b.Current → seen f b = l.map (entry g) ++ rest →
        b.handleAll (runs.filterMap confirmOf) = b.handleAll (runs.flatten.map Settlement.single)
  | _, _, _, .none _, _, _, _ => rfl
  | _, _, _, @Peels.run _ run _ _ runs hrun hfront hlater, b, hcurrent, h => by
    obtain ⟨c, hc⟩ := hrun.confirmOf
    obtain ⟨hresolved, hseen⟩ := resolves_run hc hfront h
    rw [List.filterMap_cons_some hc, Books.handleAll_cons, List.flatten_cons, List.map_append,
      Books.handleAll_append, handleAll_single hrun hc hcurrent hresolved]
    exact handleAll_peels_singly hlater (Books.current_handle hcurrent c) hseen

/-- To the books it makes no difference how a session reports. -/
theorem handleAll_reports_singly {α β : Type} {f : α → β} {g : Settlement → β}
    (mode : Reporting) {pending : List Settlement} {rest : List (Tag × β)} {b : Books α}
    (hcurrent : b.Current) (h : seen f b = pending.map (entry g) ++ rest) :
    b.handleAll ((reports mode pending).filterMap confirmOf)
      = b.handleAll ((reports .individual pending).filterMap confirmOf) := by
  rw [handleAll_peels_singly (peels_reports mode pending) hcurrent h, flatten_reports,
    confirms_individual]

/-! ## The log -/

/-- What is written for one record if everything is told one by one, these tags not being spoken
for. -/
def instead (n : Nat) (left : List Tag) (r : ConfirmRecord) : List ConfirmRecord :=
  if r.session = n ∧ r.confirm.multiple = true then
    (left.filter fun t => r.confirm.covers t).map fun t => ⟨n, r.confirm.about t⟩
  else [r]

/-- The tags that are still not spoken for. -/
def strike (n : Nat) (left : List Tag) (r : ConfirmRecord) : List Tag :=
  if r.session = n then left.filter fun t => !r.confirm.covers t else left

/-- The log with single confirms in place of the multiple ones of session `n`, on which the tags
`left` were sent. -/
def singly (n : Nat) : List Tag → List ConfirmRecord → List ConfirmRecord
  | _, [] => []
  | left, r :: log => instead n left r ++ singly n (strike n left r) log

/-- The tags for which the log does not speak. -/
def unspoken (n : Nat) (left : List Tag) (log : List ConfirmRecord) : List Tag :=
  log.foldl (strike n) left

section Log

variable {n : Nat}

theorem singly_append : ∀ (log more : List ConfirmRecord) (left : List Tag),
    singly n left (log ++ more) = singly n left log ++ singly n (unspoken n left log) more
  | [], _, _ => rfl
  | r :: log, more, left => by
    rw [List.cons_append, singly, singly_append log more, singly, List.append_assoc]
    rfl

theorem unspoken_append (left : List Tag) (log more : List ConfirmRecord) :
    unspoken n left (log ++ more) = unspoken n (unspoken n left log) more := List.foldl_append

/-- The records of other sessions stay as they are. -/
theorem singly_other : ∀ {log : List ConfirmRecord}, (∀ r ∈ log, r.session ≠ n) →
    ∀ left : List Tag, singly n left log = log ∧ unspoken n left log = left
  | [], _, _ => ⟨rfl, rfl⟩
  | r :: log, hlog, left => by
    obtain ⟨hr, hlog⟩ := List.forall_mem_cons.1 hlog
    obtain ⟨hsingly, hleft⟩ := singly_other hlog left
    have hinstead : instead n left r = [r] := if_neg fun h => hr h.1
    have hstrike : strike n left r = left := if_neg hr
    rw [singly, unspoken, List.foldl_cons, hinstead, hstrike, hsingly]
    exact ⟨rfl, hleft⟩

/-- A tag that the log does not speak for yet may be sent later. -/
theorem singly_later {t : Tag} : ∀ {log : List ConfirmRecord},
    (∀ r ∈ log, r.session = n → r.confirm.covers t = false) → ∀ left : List Tag,
      singly n (left ++ [t]) log = singly n left log
        ∧ unspoken n (left ++ [t]) log = unspoken n left log ++ [t]
  | [], _, _ => ⟨rfl, rfl⟩
  | r :: log, hlog, left => by
    obtain ⟨hr, hlog⟩ := List.forall_mem_cons.1 hlog
    have hinstead : instead n (left ++ [t]) r = instead n left r := by
      unfold instead
      split_ifs with hmany
      · rw [List.filter_append, List.filter_cons_of_neg (Bool.eq_false_iff.1 (hr hmany.1)),
          List.filter_nil, List.append_nil]
      · rfl
    have hstrike : strike n (left ++ [t]) r = strike n left r ++ [t] := by
      unfold strike
      split_ifs with hown
      · rw [List.filter_append, List.filter_cons_of_pos (by rw [hr hown]; rfl), List.filter_nil]
      · rfl
    obtain ⟨hsingly, hleft⟩ := singly_later hlog (strike n left r)
    rw [singly, unspoken, List.foldl_cons, hinstead, hstrike, hsingly]
    exact ⟨rfl, hleft⟩

/-- What is told in runs, told one by one. -/
theorem Peels.singly {l later : List Settlement} {runs : List (List Settlement)}
    (h : Peels l runs later) (hasc : Ascending l) :
    let log := (runs.filterMap confirmOf).map (ConfirmRecord.mk n)
    Broker.singly n (l.map Settlement.tag) log
        = (runs.flatten.map Settlement.single).map (ConfirmRecord.mk n)
      ∧ unspoken n (l.map Settlement.tag) log = later.map Settlement.tag := by
  induction h with
  | none => exact ⟨rfl, rfl⟩
  | @run front run back later runs hrun hfront _ ih =>
    obtain ⟨c, hc⟩ := hrun.confirmOf
    obtain ⟨hcovered, hleft⟩ := filter_covers hasc hc hfront
    obtain ⟨hsingly, hlater⟩ := ih (hleft ▸ hasc.filter _)
    have hfilter : ∀ p : Tag → Bool, ((front ++ run ++ back).map Settlement.tag).filter p
        = ((front ++ run ++ back).filter fun x => p x.tag).map Settlement.tag :=
      fun p => List.filter_map
    have hinstead : instead n ((front ++ run ++ back).map Settlement.tag) ⟨n, c⟩
        = (run.map Settlement.single).map (ConfirmRecord.mk n) := by
      rw [← hrun.about hc, List.map_map]
      unfold instead
      split_ifs with hmany
      · rw [hfilter, hcovered]
        rfl
      · obtain ⟨x, hx, rfl⟩ := last_of_confirmOf hc
        obtain ⟨init, rfl⟩ := List.getLast?_eq_some_iff.1 hx
        have : init = [] := by simpa using hmany
        rw [this]
        rfl
    have hstrike : strike n ((front ++ run ++ back).map Settlement.tag) ⟨n, c⟩
        = (front ++ back).map Settlement.tag := by
      rw [strike, if_pos rfl, hfilter, hleft]
    dsimp only at hsingly hlater ⊢
    rw [List.filterMap_cons_some hc, List.map_cons, Broker.singly, unspoken, List.foldl_cons,
      hinstead, hstrike, hsingly, List.flatten_cons, List.map_append, List.map_append]
    exact ⟨rfl, hlater⟩

end Log

end ConfirmedDelivery.Broker
