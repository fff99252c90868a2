import ConfirmedDelivery.Books
import ConfirmedDelivery.Proofs.InFlight

/-!
# What happens to the books

A confirm takes the items it covers out of flight, in ascending order of tags, and puts them on the
side of its verdict: accepted ones are counted, refused ones are counted and queued
(`acked_handle`, `nacked_handle`, `rejected_handle`). Every other item stays in flight
(`unanswered_handle`). An item is recorded under a free tag only (`add?_eq_some`), and then it joins
those in flight. Whatever happens, waiters see how many items are left (`Current`).
-/

namespace ConfirmedDelivery

universe u

variable {α : Type u}

namespace Books

/-- The items in flight with their tags, ascending. -/
def unanswered (b : Books α) : List (Tag × α) := b.inFlight.entries.entries

/-- Waiters see how many items are in flight. -/
def Current (b : Books α) : Prop := b.inFlight.shown = b.unanswered.length

@[simp] theorem unanswered_empty : (∅ : Books α).unanswered = [] := rfl
@[simp] theorem acked_empty : (∅ : Books α).acked = 0 := rfl
@[simp] theorem nacked_empty : (∅ : Books α).nacked = 0 := rfl
@[simp] theorem rejected_empty : (∅ : Books α).rejected = [] := rfl

theorem current_empty : (∅ : Books α).Current := rfl

theorem size_inFlight (b : Books α) : b.inFlight.size = b.unanswered.length := rfl

theorem ascending_unanswered (b : Books α) :
    b.unanswered.Pairwise (fun e e' => e.1 < e'.1) := b.inFlight.entries.ascending

theorem drained_iff {b : Books α} (h : b.Current) :
    b.inFlight.drained = true ↔ b.unanswered = [] := by
  unfold Current at h
  rw [InFlight.drained, h, beq_iff_eq, List.length_eq_zero_iff]

section Handle

variable (b : Books α) (c : Confirm)

/-- What a confirm takes out is what it covers of what is unanswered. -/
theorem taken_eq : (b.inFlight.withdraw c.toScope).1 = b.unanswered.filter (fun e => c.covers e.1) := by
  rw [InFlight.withdraw_eq]
  rfl

theorem handle_of_none {b : Books α} {c : Confirm}
    (h : b.unanswered.filter (fun e => c.covers e.1) = []) : b.handle c = ([], b) := by
  simp only [handle, InFlight.resolveWith, taken_eq, h, List.isEmpty_nil, ↓reduceIte]

theorem handle_of_some {b : Books α} {c : Confirm}
    (h : b.unanswered.filter (fun e => c.covers e.1) ≠ []) :
    b.handle c = (b.unanswered.filter (fun e => c.covers e.1),
      { settle c.verdict (b.unanswered.filter (fun e => c.covers e.1)) b with
        inFlight := (b.inFlight.withdraw c.toScope).2.publish }) := by
  have hne : (b.unanswered.filter fun e => c.covers e.1).isEmpty = false :=
    Bool.eq_false_iff.2 fun hempty => h (List.isEmpty_iff.1 hempty)
  simp only [handle, InFlight.resolveWith, taken_eq, hne, Bool.false_eq_true, ↓reduceIte]

theorem handle_fst : (b.handle c).1 = b.unanswered.filter (fun e => c.covers e.1) := by
  by_cases h : b.unanswered.filter (fun e => c.covers e.1) = []
  · rw [handle_of_none h, h]
  · rw [handle_of_some h]

theorem unanswered_handle :
    (b.handle c).2.unanswered = b.unanswered.filter (fun e => !c.covers e.1) := by
  by_cases h : b.unanswered.filter (fun e => c.covers e.1) = []
  · have hnone := List.filter_eq_nil_iff.1 h
    rw [handle_of_none h, List.filter_eq_self.2 fun e he => by simpa using hnone e he]
  · rw [handle_of_some h, InFlight.withdraw_eq]
    rfl

/-- The verdict may count as written down even where it changes nothing. -/
theorem handle_snd :
    ∃ f, (b.handle c).2 = { settle c.verdict (b.handle c).1 b with inFlight := f } := by
  by_cases h : b.unanswered.filter (fun e => c.covers e.1) = []
  · rw [handle_of_none h]
    refine ⟨b.inFlight, ?_⟩
    cases c.verdict <;> simp [settle]
  · rw [handle_of_some h]
    exact ⟨_, rfl⟩

theorem acked_handle :
    (b.handle c).2.acked
      = b.acked + if c.verdict = .acked then (b.handle c).1.length else 0 := by
  obtain ⟨f, hf⟩ := handle_snd b c
  rw [hf]
  cases c.verdict <;> simp [settle]

theorem nacked_handle :
    (b.handle c).2.nacked
      = b.nacked + if c.verdict = .nacked then (b.handle c).1.length else 0 := by
  obtain ⟨f, hf⟩ := handle_snd b c
  rw [hf]
  cases c.verdict <;> simp [settle]

theorem rejected_handle :
    (b.handle c).2.rejected
      = b.rejected ++ if c.verdict = .nacked then (b.handle c).1.map Prod.snd else [] := by
  obtain ⟨f, hf⟩ := handle_snd b c
  rw [hf]
  cases c.verdict <;> simp [settle]

theorem current_handle {b : Books α} (h : b.Current) (c : Confirm) : (b.handle c).2.Current := by
  by_cases hc : b.unanswered.filter (fun e => c.covers e.1) = []
  · rw [handle_of_none hc]
    exact h
  · rw [handle_of_some hc]
    rfl

end Handle

section Add

theorem add?_of_taken {b : Books α} {t : Tag} (h : b.inFlight.entries.contains t = true) (a : α) :
    b.add? t a = none := by
  simp only [add?, InFlight.add?, InFlight.record?, h, ↓reduceIte, Option.map_none]

theorem add?_of_free {b : Books α} {t : Tag} (h : b.inFlight.entries.contains t = false) (a : α) :
    b.add? t a = some { b with
      inFlight := { b.inFlight with entries := b.inFlight.entries.insert t a }.publish } := by
  simp only [add?, InFlight.add?, InFlight.record?, h, Bool.false_eq_true, ↓reduceIte,
    Option.map_some]

/-- What recording an item does: the tag was free, the item joins those in flight, and nothing else
changes. -/
theorem add?_eq_some {b b' : Books α} {t : Tag} {a : α} (h : b.add? t a = some b') :
    (∀ e ∈ b.unanswered, e.1 ≠ t) ∧ b'.unanswered.Perm ((t, a) :: b.unanswered)
      ∧ b'.acked = b.acked ∧ b'.nacked = b.nacked ∧ b'.rejected = b.rejected ∧ b'.Current := by
  cases hc : b.inFlight.entries.contains t with
  | true => rw [add?_of_taken hc a] at h; simp at h
  | false =>
    rw [add?_of_free hc a] at h
    obtain rfl := Option.some.inj h
    exact ⟨Dict.contains_eq_false.1 hc, Dict.entries_insert_fresh hc a, rfl, rfl, rfl, rfl⟩

/-- A tag beyond all others is free, and its item goes last. -/
theorem add?_last {b : Books α} {t : Tag} (h : ∀ e ∈ b.unanswered, e.1 < t) (a : α) :
    ∃ b', b.add? t a = some b' ∧ b'.unanswered = b.unanswered ++ [(t, a)] := by
  have hfree : b.inFlight.entries.contains t = false :=
    Dict.contains_eq_false.2 fun e he => Std.ne_of_lt (h e he)
  exact ⟨_, add?_of_free hfree a, Dict.entries_insert_last h a⟩

end Add

section Tags

variable {b b' : Books α} {t t' : Tag} {a : α}

theorem mem_tags : t ∈ b.inFlight.tags ↔ ∃ a, (t, a) ∈ b.unanswered := by
  simp [InFlight.tags, Dict.keys, unanswered]

theorem not_mem_tags : t ∉ b.inFlight.tags ↔ b.inFlight.entries.contains t = false := by
  rw [Dict.contains_eq_false, mem_tags, not_exists]
  exact ⟨fun h e he heq => h e.2 (heq ▸ he), fun h a ha => h _ ha rfl⟩

/-- A tag is refused while it is in flight, and only then. -/
theorem add?_eq_none_iff : b.add? t a = none ↔ t ∈ b.inFlight.tags := by
  cases hc : b.inFlight.entries.contains t with
  | true =>
    have htaken : t ∈ b.inFlight.tags := by
      by_contra hfree
      exact Bool.noConfusion (hc.symm.trans (not_mem_tags.1 hfree))
    simp [add?_of_taken hc, htaken]
  | false => simp [add?_of_free hc, not_mem_tags.2 hc]

theorem mem_tags_add? (hadd : b.add? t a = some b') :
    t' ∈ b'.inFlight.tags ↔ t' = t ∨ t' ∈ b.inFlight.tags := by
  obtain ⟨-, hperm, -⟩ := add?_eq_some hadd
  simp only [mem_tags, hperm.mem_iff, List.mem_cons, Prod.mk.injEq]
  grind

theorem mem_tags_handle {c : Confirm} (hcovers : c.covers t = false) (h : t ∈ b.inFlight.tags) :
    t ∈ (b.handle c).2.inFlight.tags := by
  obtain ⟨a, ha⟩ := mem_tags.1 h
  refine mem_tags.2 ⟨a, ?_⟩
  rw [unanswered_handle, List.mem_filter]
  exact ⟨ha, by simp [hcovers]⟩

end Tags

theorem handleAll_nil (b : Books α) : b.handleAll [] = b := rfl

theorem handleAll_cons (b : Books α) (c : Confirm) (cs : List Confirm) :
    b.handleAll (c :: cs) = (b.handle c).2.handleAll cs := rfl

theorem handleAll_append (b : Books α) (cs ds : List Confirm) :
    b.handleAll (cs ++ ds) = (b.handleAll cs).handleAll ds := List.foldl_append

/-- Books with nothing in flight take in any confirms unchanged. -/
theorem handleAll_of_unanswered_nil {b : Books α} (h : b.unanswered = []) :
    ∀ cs : List Confirm, b.handleAll cs = b
  | [] => rfl
  | c :: cs => by
    have hnone : b.unanswered.filter (fun e => c.covers e.1) = [] := by rw [h, List.filter_nil]
    rw [handleAll_cons, handle_of_none hnone]
    exact handleAll_of_unanswered_nil h cs

theorem handleAll_empty (cs : List Confirm) : (∅ : Books α).handleAll cs = ∅ :=
  handleAll_of_unanswered_nil rfl cs

theorem length_handleAll :
    ∀ (cs : List Confirm) (b : Books α), (b.handleAll cs).unanswered.length ≤ b.unanswered.length
  | [], _ => Nat.le_refl _
  | c :: cs, b => by
    refine Nat.le_trans (length_handleAll cs (b.handle c).2) ?_
    rw [unanswered_handle]
    exact List.length_filter_le ..

theorem current_handleAll :
    ∀ (cs : List Confirm) {b : Books α}, b.Current → (b.handleAll cs).Current
  | [], _, h => h
  | c :: cs, _, h => current_handleAll cs (current_handle h c)

/-! ## Every item is in one place -/

/-- How many items are in flight, accepted or queued. -/
def total (b : Books α) : Nat := b.unanswered.length + b.acked + b.rejected.length

theorem total_handle (b : Books α) (c : Confirm) : (b.handle c).2.total = b.total := by
  have hsplit := List.length_eq_length_filter_add (l := b.unanswered) fun e => c.covers e.1
  rw [← handle_fst, ← unanswered_handle] at hsplit
  rw [total, total, acked_handle, rejected_handle, List.length_append]
  cases c.verdict <;> simp <;> omega

theorem total_handleAll : ∀ (cs : List Confirm) (b : Books α), (b.handleAll cs).total = b.total
  | [], _ => rfl
  | c :: cs, b => (total_handleAll cs (b.handle c).2).trans (total_handle b c)

theorem total_add? {b b' : Books α} {t : Tag} {a : α} (h : b.add? t a = some b') :
    b'.total = b.total + 1 := by
  obtain ⟨-, hperm, hacked, -, hrejected, -⟩ := add?_eq_some h
  rw [total, total, hperm.length_eq, hacked, hrejected, List.length_cons]
  omega

end Books

end ConfirmedDelivery
