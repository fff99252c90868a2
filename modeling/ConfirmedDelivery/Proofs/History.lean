import ConfirmedDelivery.Proofs.Books

/-!
# The first answer stands

A history lists what happened to the books, one thing after another: items were recorded and
confirms came in, in any order and any number of times. The fate of a recorded item is the first
later confirm that covers its tag (`fate`). The books agree with the fates of all items
(`first_answer_stands`): in flight are those without a fate, the counters count the others by verdict,
and the refused ones are queued in the order of the confirms that refused them.
-/

namespace ConfirmedDelivery

universe u

/-- One thing that happens to the books. -/
inductive Posting (α : Type u) where
  | recorded (tag : Tag) (item : α)
  | answered (confirm : Confirm)

/-- An item that was recorded, and what became of it: the confirm that settled it, by its place in
the history, and its verdict. -/
structure Recording (α : Type u) where
  tag : Tag
  item : α
  fate : Option (Nat × Verdict)

variable {α : Type u}

namespace Recording

def entry (r : Recording α) : Tag × α := (r.tag, r.item)

/-- Whether nothing has settled the item. -/
def undecided (r : Recording α) : Bool := r.fate.isNone

/-- Whether the item was settled with this verdict. -/
def settledAs (v : Verdict) (r : Recording α) : Bool := r.fate.any fun f => decide (f.2 = v)

/-- Whether it was the confirm at this place that settled the item. -/
def settledAt (n : Nat) (r : Recording α) : Bool := r.fate.any fun f => decide (f.1 = n)

/-- Settled by an earlier confirm, or by the same one under a lower tag. -/
def Before (r s : Recording α) : Prop :=
  ∃ f g, r.fate = some f ∧ s.fate = some g ∧ (f.1 < g.1 ∨ f.1 = g.1 ∧ r.tag < s.tag)

end Recording

/-- The first confirm in a history that covers a tag: its place, the places being counted from `n`,
and its verdict. -/
def fate (t : Tag) : Nat → List (Posting α) → Option (Nat × Verdict)
  | _, [] => none
  | n, .recorded _ _ :: later => fate t (n + 1) later
  | n, .answered c :: later =>
    if c.covers t then some (n, c.verdict) else fate t (n + 1) later

/-- The items that are recorded in a history that goes on from these books at place `n`. -/
def recordings : Books α → Nat → List (Posting α) → List (Recording α)
  | _, _, [] => []
  | b, n, .recorded t a :: later =>
    match b.add? t a with
    | none => recordings b (n + 1) later
    | some b' => ⟨t, a, fate t (n + 1) later⟩ :: recordings b' (n + 1) later
  | b, n, .answered c :: later => recordings (b.handle c).2 (n + 1) later

namespace Books

/-- The books after one more thing happened to them; a tag that is taken changes nothing. -/
def post (b : Books α) : Posting α → Books α
  | .recorded t a => (b.add? t a).getD b
  | .answered c => (b.handle c).2

/-- The books at the end of a history. -/
def replay (b : Books α) (h : List (Posting α)) : Books α := h.foldl post b

theorem replay_append (b : Books α) (h k : List (Posting α)) :
    b.replay (h ++ k) = (b.replay h).replay k := List.foldl_append

theorem replay_of_refused {b : Books α} {t : Tag} {a : α} (hadd : b.add? t a = none)
    (later : List (Posting α)) : b.replay (.recorded t a :: later) = b.replay later := by
  simp only [replay, List.foldl_cons, post, hadd, Option.getD_none]

theorem replay_of_recorded {b b' : Books α} {t : Tag} {a : α} (hadd : b.add? t a = some b')
    (later : List (Posting α)) : b.replay (.recorded t a :: later) = b'.replay later := by
  simp only [replay, List.foldl_cons, post, hadd, Option.getD_some]

theorem replay_of_answered (b : Books α) (c : Confirm) (later : List (Posting α)) :
    b.replay (.answered c :: later) = (b.handle c).2.replay later := rfl

theorem replay_answered : ∀ (b : Books α) (cs : List Confirm),
    b.replay (cs.map .answered) = b.handleAll cs
  | _, [] => rfl
  | b, c :: cs => replay_answered (b.handle c).2 cs

theorem current_replay : ∀ (h : List (Posting α)) {b : Books α}, b.Current → (b.replay h).Current
  | [], _, hb => hb
  | .recorded t a :: later, b, hb => by
    rcases hadd : b.add? t a with _ | b'
    · rw [replay_of_refused hadd]
      exact current_replay later hb
    · rw [replay_of_recorded hadd]
      exact current_replay later (add?_eq_some hadd).2.2.2.2.2
  | .answered c :: later, _, hb => current_replay later (current_handle hb c)

/-- What is in flight stays so until a confirm covers its tag. -/
theorem mem_tags_replay {t : Tag} : ∀ (h : List (Posting α)) {b : Books α}, t ∈ b.inFlight.tags →
    (∀ c, .answered c ∈ h → c.covers t = false) → t ∈ (b.replay h).inFlight.tags
  | [], _, ht, _ => ht
  | .recorded t' a :: later, b, ht, hcovers => by
    have hlater := fun c hc => hcovers c (List.mem_cons_of_mem _ hc)
    rcases hadd : b.add? t' a with _ | b'
    · rw [replay_of_refused hadd]
      exact mem_tags_replay later ht hlater
    · rw [replay_of_recorded hadd]
      exact mem_tags_replay later ((mem_tags_add? hadd).2 (.inr ht)) hlater
  | .answered c :: later, _, ht, hcovers =>
    mem_tags_replay later (mem_tags_handle (hcovers c List.mem_cons_self) ht)
      fun c hc => hcovers c (List.mem_cons_of_mem _ hc)

end Books

open Books

/-- The items in flight, with their fates in what follows. -/
def standing (b : Books α) (n : Nat) (h : List (Posting α)) : List (Recording α) :=
  b.unanswered.map fun e => ⟨e.1, e.2, fate e.1 n h⟩

/-- Every item that a history can settle: those in flight at its beginning, and those that are
recorded in it. -/
def account (b : Books α) (n : Nat) (h : List (Posting α)) : List (Recording α) :=
  standing b n h ++ recordings b n h

theorem account_empty (n : Nat) (h : List (Posting α)) :
    account (∅ : Books α) n h = recordings ∅ n h := rfl

theorem account_refused {b : Books α} {t : Tag} {a : α} (hadd : b.add? t a = none) (n : Nat)
    (later : List (Posting α)) :
    account b n (.recorded t a :: later) = account b (n + 1) later := by
  simp only [account, recordings, hadd]
  rfl

theorem account_recorded {b b' : Books α} {t : Tag} {a : α} (hadd : b.add? t a = some b') (n : Nat)
    (later : List (Posting α)) :
    (account b n (.recorded t a :: later)).Perm (account b' (n + 1) later) := by
  obtain ⟨-, hperm, -⟩ := add?_eq_some hadd
  have hs := hperm.map fun e => (⟨e.1, e.2, fate e.1 (n + 1) later⟩ : Recording α)
  simp only [account, recordings, hadd]
  exact List.perm_middle.trans (hs.append_right (recordings b' (n + 1) later)).symm

/-- The items that a confirm at place `n` settles. -/
def settledNow (b : Books α) (n : Nat) (c : Confirm) : List (Recording α) :=
  (b.handle c).1.map fun e => ⟨e.1, e.2, some (n, c.verdict)⟩

theorem standing_answered (b : Books α) (n : Nat) (c : Confirm) (later : List (Posting α)) :
    (standing b n (.answered c :: later)).Perm
      (settledNow b n c ++ standing (b.handle c).2 (n + 1) later) := by
  have hsplit := (List.filter_append_perm (fun e => c.covers e.1) b.unanswered).symm.map
    fun e => (⟨e.1, e.2, fate e.1 n (.answered c :: later)⟩ : Recording α)
  have hnow : (b.unanswered.filter fun e => c.covers e.1).map
      (fun e => (⟨e.1, e.2, fate e.1 n (.answered c :: later)⟩ : Recording α))
        = settledNow b n c := by
    rw [settledNow, handle_fst]
    refine List.map_congr_left fun e he => ?_
    rw [fate, if_pos (List.mem_filter.1 he).2]
  have hlater : (b.unanswered.filter fun e => !c.covers e.1).map
      (fun e => (⟨e.1, e.2, fate e.1 n (.answered c :: later)⟩ : Recording α))
        = standing (b.handle c).2 (n + 1) later := by
    rw [standing, unanswered_handle]
    refine List.map_congr_left fun e he => ?_
    have hc := (List.mem_filter.1 he).2
    rw [fate, if_neg (by simpa using hc)]
  rwa [List.map_append, hnow, hlater] at hsplit

theorem account_answered (b : Books α) (n : Nat) (c : Confirm) (later : List (Posting α)) :
    (account b n (.answered c :: later)).Perm
      (settledNow b n c ++ account (b.handle c).2 (n + 1) later) := by
  have h := (standing_answered b n c later).append_right (recordings (b.handle c).2 (n + 1) later)
  rwa [List.append_assoc] at h

section SettledNow

variable (b : Books α) (n : Nat) (c : Confirm)

theorem filter_undecided_settledNow : (settledNow b n c).filter Recording.undecided = [] := by
  simp [settledNow, List.filter_map, Recording.undecided, Function.comp_def]

theorem filter_settledAs_settledNow (v : Verdict) :
    (settledNow b n c).filter (Recording.settledAs v)
      = if c.verdict = v then settledNow b n c else [] := by
  split_ifs with hv
  all_goals simp [settledNow, List.filter_map, Recording.settledAs, Function.comp_def, hv]

theorem length_settledNow : (settledNow b n c).length = (b.handle c).1.length :=
  List.length_map ..

theorem countP_settledAs_settledNow (v : Verdict) :
    (settledNow b n c).countP (Recording.settledAs v)
      = if c.verdict = v then (b.handle c).1.length else 0 := by
  rw [List.countP_eq_length_filter, filter_settledAs_settledNow]
  split_ifs
  · exact length_settledNow b n c
  · rfl

theorem items_settledNow : (settledNow b n c).map Recording.item = (b.handle c).1.map Prod.snd := by
  simp [settledNow]

theorem before_settledNow : (settledNow b n c).Pairwise Recording.Before := by
  rw [settledNow, handle_fst, List.pairwise_map]
  refine (b.ascending_unanswered.filter _).imp fun hlt => ?_
  exact ⟨_, _, rfl, rfl, .inr ⟨rfl, hlt⟩⟩

end SettledNow

/-- The books at the end of a history agree with the fates of all items. -/
structure Agrees (b : Books α) (n : Nat) (h : List (Posting α)) : Prop where
  unanswered : (b.replay h).unanswered.Perm
    (((account b n h).filter Recording.undecided).map Recording.entry)
  acked : (b.replay h).acked = b.acked + (account b n h).countP (Recording.settledAs .acked)
  nacked : (b.replay h).nacked = b.nacked + (account b n h).countP (Recording.settledAs .nacked)
  rejected : ∃ rs : List (Recording α),
    rs.Perm ((account b n h).filter (Recording.settledAs .nacked)) ∧ rs.Pairwise Recording.Before
      ∧ (b.replay h).rejected = b.rejected ++ rs.map Recording.item

theorem agrees_nil (b : Books α) (n : Nat) : Agrees b n [] := by
  have hall : account b n [] = b.unanswered.map fun e => ⟨e.1, e.2, none⟩ := by
    simp [account, standing, recordings, fate]
  constructor <;> rw [hall]
  · simp [replay, List.filter_map, Recording.undecided, Recording.entry, Function.comp_def]
  · simp [replay, Recording.settledAs, List.countP_map, Function.comp_def]
  · simp [replay, Recording.settledAs, List.countP_map, Function.comp_def]
  · exact ⟨[], by simp [List.filter_map, Recording.settledAs, Function.comp_def],
      List.Pairwise.nil, by simp [replay]⟩

theorem agrees_recorded {b b' : Books α} {t : Tag} {a : α} {n : Nat} {later : List (Posting α)}
    (hadd : b.add? t a = some b') (ih : Agrees b' (n + 1) later) :
    Agrees b n (.recorded t a :: later) := by
  have hperm := account_recorded hadd n later
  have hb := replay_of_recorded hadd later
  obtain ⟨-, -, hacked, hnacked, hrejected, -⟩ := add?_eq_some hadd
  constructor <;> rw [hb]
  · exact ih.unanswered.trans ((hperm.filter _).map _).symm
  · rw [ih.acked, hacked, hperm.countP_eq]
  · rw [ih.nacked, hnacked, hperm.countP_eq]
  · obtain ⟨rs, hrs, hbefore, heq⟩ := ih.rejected
    exact ⟨rs, hrs.trans (hperm.filter _).symm, hbefore, by rw [heq, hrejected]⟩

theorem agrees_refused {b : Books α} {t : Tag} {a : α} {n : Nat} {later : List (Posting α)}
    (hadd : b.add? t a = none) (ih : Agrees b (n + 1) later) :
    Agrees b n (.recorded t a :: later) := by
  constructor <;> rw [replay_of_refused hadd, account_refused hadd]
  · exact ih.unanswered
  · exact ih.acked
  · exact ih.nacked
  · exact ih.rejected

theorem le_of_mem_account {r : Recording α} {f : Nat × Verdict} :
    ∀ {h : List (Posting α)} {b : Books α} {n : Nat}, r ∈ account b n h → r.fate = some f → n ≤ f.1
  | [], b, n, hr, hf => by
    simp only [account, standing, recordings, fate, List.append_nil, List.mem_map] at hr
    obtain ⟨e, -, rfl⟩ := hr
    simp at hf
  | .recorded t a :: later, b, n, hr, hf => by
    rcases hadd : b.add? t a with _ | b'
    · rw [account_refused hadd] at hr
      have := le_of_mem_account hr hf
      omega
    · have := le_of_mem_account ((account_recorded hadd n later).mem_iff.1 hr) hf
      omega
  | .answered c :: later, b, n, hr, hf => by
    rcases List.mem_append.1 ((account_answered b n c later).mem_iff.1 hr) with hr | hr
    · obtain ⟨e, -, rfl⟩ := List.mem_map.1 hr
      obtain rfl := Option.some.inj hf
      exact Nat.le_refl _
    · have := le_of_mem_account hr hf
      omega

theorem agrees_answered {b : Books α} {c : Confirm} {n : Nat} {later : List (Posting α)}
    (ih : Agrees (b.handle c).2 (n + 1) later) : Agrees b n (.answered c :: later) := by
  have hperm := account_answered b n c later
  constructor <;> rw [replay_of_answered]
  · have h := (hperm.filter Recording.undecided).map Recording.entry
    rw [List.filter_append, filter_undecided_settledNow, List.nil_append] at h
    exact ih.unanswered.trans h.symm
  · rw [ih.acked, acked_handle, hperm.countP_eq, List.countP_append, countP_settledAs_settledNow,
      Nat.add_assoc]
  · rw [ih.nacked, nacked_handle, hperm.countP_eq, List.countP_append, countP_settledAs_settledNow,
      Nat.add_assoc]
  · obtain ⟨rs, hrs, hbefore, heq⟩ := ih.rejected
    refine ⟨(settledNow b n c).filter (Recording.settledAs .nacked) ++ rs, ?_, ?_, ?_⟩
    · refine ((hrs.append_left _).trans ?_).trans (hperm.filter _).symm
      rw [List.filter_append]
    · refine List.pairwise_append.2
        ⟨(before_settledNow b n c).filter _, hbefore, fun r hr s hs => ?_⟩
      obtain ⟨e, -, rfl⟩ := List.mem_map.1 (List.mem_of_mem_filter hr)
      obtain ⟨hs, hv⟩ := List.mem_filter.1 (hrs.mem_iff.1 hs)
      obtain ⟨g, hg, -⟩ := (Option.any_eq_true _ _).1 hv
      exact ⟨_, g, rfl, hg, .inl (le_of_mem_account hs hg)⟩
    · rw [heq, rejected_handle, filter_settledAs_settledNow, List.map_append, List.append_assoc]
      split_ifs
      · rw [items_settledNow]
      · rfl

theorem agrees : ∀ (h : List (Posting α)) (b : Books α) (n : Nat), Agrees b n h
  | [], b, n => agrees_nil b n
  | .recorded t a :: later, b, n => by
    rcases hadd : b.add? t a with _ | b'
    · exact agrees_refused hadd (agrees later b (n + 1))
    · exact agrees_recorded hadd (agrees later b' (n + 1))
  | .answered c :: later, b, n => agrees_answered (agrees later (b.handle c).2 (n + 1))

/-- What is recorded in a history does not depend on what comes after it, except for the fates. -/
theorem items_recordings_append (k : List (Posting α)) :
    ∀ (h : List (Posting α)) (b : Books α) (n : Nat),
      (recordings b n (h ++ k)).map Recording.item
        = (recordings b n h).map Recording.item
          ++ (recordings (b.replay h) (n + h.length) k).map Recording.item
  | [], _, _ => rfl
  | .recorded t a :: later, b, n => by
    rw [List.length_cons, ← Nat.add_assoc, Nat.add_right_comm, List.cons_append]
    rcases hadd : b.add? t a with _ | b'
    · rw [replay_of_refused hadd]
      simp only [recordings, hadd]
      exact items_recordings_append k later b (n + 1)
    · rw [replay_of_recorded hadd]
      simp only [recordings, hadd, List.map_cons, List.cons_append]
      rw [items_recordings_append k later b' (n + 1)]
  | .answered c :: later, b, n => by
    rw [List.length_cons, ← Nat.add_assoc, Nat.add_right_comm, List.cons_append, replay_of_answered]
    exact items_recordings_append k later (b.handle c).2 (n + 1)

theorem recordings_answered : ∀ (cs : List Confirm) (b : Books α) (n : Nat),
    recordings b n (cs.map .answered) = []
  | [], _, _ => rfl
  | c :: cs, b, n => recordings_answered cs (b.handle c).2 (n + 1)

/-- Where everything is settled, it is accepted or refused. -/
theorem accepted_append_refused {rs : List (Recording α)}
    (h : ∀ r ∈ rs, r.undecided = false) :
    (rs.filter (Recording.settledAs .acked) ++ rs.filter (Recording.settledAs .nacked)).Perm rs := by
  have hnot : rs.filter (Recording.settledAs .nacked)
      = rs.filter fun r => !r.settledAs .acked := by
    refine List.filter_congr fun r hr => ?_
    have := h r hr
    rcases r with ⟨t, a, _ | ⟨n, v⟩⟩
    · simp [Recording.undecided] at this
    · cases v <;> rfl
  rw [hnot]
  exact List.filter_append_perm _ rs

/-- A confirm resolves as many items as it settles of all that the history records. -/
theorem length_handle (c : Confirm) (later : List (Posting α)) :
    ∀ (earlier : List (Posting α)) (b : Books α) (n : Nat),
      ((b.replay earlier).handle c).1.length
        = (account b n (earlier ++ .answered c :: later)).countP
            (Recording.settledAt (n + earlier.length))
  | [], b, n => by
    have hnow : (settledNow b n c).countP (Recording.settledAt n) = (b.handle c).1.length := by
      simp [settledNow, List.countP_map, Recording.settledAt, Function.comp_def]
    have hlater : (account (b.handle c).2 (n + 1) later).countP (Recording.settledAt n) = 0 := by
      refine List.countP_eq_zero.2 fun r hr hn => ?_
      obtain ⟨f, hf, hfn⟩ := (Option.any_eq_true _ _).1 hn
      have hle := le_of_mem_account hr hf
      have := of_decide_eq_true hfn
      omega
    rw [List.nil_append, (account_answered b n c later).countP_eq, List.countP_append]
    simp only [List.length_nil, Nat.add_zero, hnow, hlater]
    rfl
  | .recorded t a :: rest, b, n => by
    rcases hadd : b.add? t a with _ | b'
    · rw [replay_of_refused hadd, List.cons_append, account_refused hadd,
        length_handle c later rest b (n + 1), List.length_cons, Nat.add_right_comm, Nat.add_assoc]
    · rw [replay_of_recorded hadd, List.cons_append, (account_recorded hadd n _).countP_eq,
        length_handle c later rest b' (n + 1), List.length_cons, Nat.add_right_comm, Nat.add_assoc]
  | .answered d :: rest, b, n => by
    have hnow : (settledNow b n d).countP (Recording.settledAt (n + (rest.length + 1))) = 0 := by
      simp [settledNow, List.countP_map, Recording.settledAt, Function.comp_def]
    rw [replay_of_answered, List.cons_append, (account_answered b n d _).countP_eq,
      List.countP_append, length_handle c later rest (b.handle d).2 (n + 1), List.length_cons, hnow,
      Nat.zero_add, Nat.add_right_comm, Nat.add_assoc]

theorem settled_or_undecided (rs : List (Recording α)) :
    rs.countP (Recording.settledAs .acked) + rs.countP (Recording.settledAs .nacked)
      + rs.countP Recording.undecided = rs.length := by
  induction rs with
  | nil => rfl
  | cons r rs ih =>
    simp only [List.countP_cons, List.length_cons]
    rcases r with ⟨t, a, _ | ⟨n, v⟩⟩
    · simp [Recording.settledAs, Recording.undecided] at ih ⊢
      omega
    · cases v <;> simp [Recording.settledAs, Recording.undecided] at ih ⊢ <;> omega

/-- Whatever is recorded and answered in whatever order, the first later confirm that covers an
item's tag settles it, and no other does. Those without one are in flight; the others are counted by
verdict; the refused ones are queued by the confirms that refused them and then by tag; each confirm
tells how many items it settled; and every item is in one place. -/
theorem first_answer_stands (h : List (Posting α)) :
    let b := (∅ : Books α).replay h
    let rs := recordings ∅ 0 h
    b.inFlight.entries.entries.Perm ((rs.filter Recording.undecided).map Recording.entry)
      ∧ b.acked = rs.countP (Recording.settledAs .acked)
      ∧ b.nacked = rs.countP (Recording.settledAs .nacked)
      ∧ (∃ queue : List (Recording α),
          queue.Perm (rs.filter (Recording.settledAs .nacked)) ∧ queue.Pairwise Recording.Before
            ∧ b.rejected = queue.map Recording.item)
      ∧ (∀ earlier c later, h = earlier ++ .answered c :: later →
          (((∅ : Books α).replay earlier).handle c).1.length
            = rs.countP (Recording.settledAt earlier.length))
      ∧ b.acked + b.nacked + b.inFlight.size = rs.length := by
  intro b rs
  have hagrees := agrees h ∅ 0
  have hacked : b.acked = rs.countP (Recording.settledAs .acked) := by
    simpa [account_empty] using hagrees.acked
  have hnacked : b.nacked = rs.countP (Recording.settledAs .nacked) := by
    simpa [account_empty] using hagrees.nacked
  refine ⟨hagrees.unanswered, hacked, hnacked, ?_, ?_, ?_⟩
  · simpa [account_empty] using hagrees.rejected
  · rintro earlier c later rfl
    simpa [account_empty] using length_handle c later earlier ∅ 0
  · have hlen : b.inFlight.size = rs.countP Recording.undecided := by
      rw [size_inFlight, hagrees.unanswered.length_eq, List.length_map, account_empty,
        List.countP_eq_length_filter]
    rw [hacked, hnacked, hlen]
    exact settled_or_undecided rs

end ConfirmedDelivery
