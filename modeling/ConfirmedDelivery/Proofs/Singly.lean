import ConfirmedDelivery.Proofs.Books

/-!
# One tag at a time

A confirm for several tags is nothing but a shorter way to say the same of each of them: the books
take it in as they would take in one confirm for each tag it resolves, in ascending order
(`Books.handle_singly`).
-/

namespace ConfirmedDelivery

universe u

variable {α : Type u}

/-- What a confirm says of one tag. -/
def Confirm.about (c : Confirm) (t : Tag) : Confirm := ⟨⟨t, false⟩, c.verdict⟩

/-- The lowest entry that is covered, taken out first. -/
theorem filter_lowest {p : Tag → Bool} {l rest : List (Tag × α)} {e : Tag × α}
    (hasc : l.Pairwise fun e e' => e.1 < e'.1) (h : l.filter (fun x => p x.1) = e :: rest) :
    l.filter (fun x => x.1 == e.1) = [e]
      ∧ (l.filter fun x => !(x.1 == e.1)).filter (fun x => p x.1) = rest
      ∧ (l.filter fun x => !(x.1 == e.1)).filter (fun x => !p x.1) = l.filter fun x => !p x.1 := by
  have hp : p e.1 = true := by
    have hmem : e ∈ l.filter fun x => p x.1 := h ▸ List.mem_cons_self
    exact (List.mem_filter.1 hmem).2
  have hother : ∀ x ∈ rest, (x.1 == e.1) = false := by
    have hcovered := hasc.filter fun x => p x.1
    rw [h, List.pairwise_cons] at hcovered
    exact fun x hx => beq_eq_false_iff_ne.2 (Std.ne_of_lt (hcovered.1 x hx)).symm
  have hout : ∀ x : Tag × α, p x.1 = false → (x.1 == e.1) = false := fun x hx =>
    beq_eq_false_iff_ne.2 fun heq => Bool.noConfusion (hx.symm.trans (heq ▸ hp))
  have hcut : ∀ q : Tag × α → Bool, (l.filter q).filter (fun x => p x.1) = (e :: rest).filter q :=
    fun q => by
      rw [← h, List.filter_filter, List.filter_filter]
      simp only [Bool.and_comm]
  refine ⟨?_, ?_, ?_⟩
  · have hall : (l.filter fun x => x.1 == e.1).filter (fun x => p x.1)
        = l.filter fun x => x.1 == e.1 :=
      List.filter_eq_self.2 fun x hx => by rw [beq_iff_eq.1 (List.mem_filter.1 hx).2, hp]
    rw [← hall, hcut, List.filter_cons_of_pos (by simp), List.filter_eq_nil_iff.2]
    exact fun x hx => Bool.eq_false_iff.1 (hother x hx)
  · rw [hcut, List.filter_cons_of_neg (by simp), List.filter_eq_self.2]
    exact fun x hx => by rw [hother x hx]; rfl
  · rw [List.filter_filter]
    refine List.filter_congr fun x _ => ?_
    cases hx : p x.1 with
    | true => rfl
    | false => rw [hout x hx]; rfl

namespace Books

/-- Books that show waiters how many items are in flight are known from the rest. -/
theorem eq_of_current {b b' : Books α} (h : b.Current) (h' : b'.Current)
    (hunanswered : b'.unanswered = b.unanswered) (hacked : b'.acked = b.acked)
    (hnacked : b'.nacked = b.nacked) (hrejected : b'.rejected = b.rejected) : b' = b := by
  obtain ⟨⟨⟨entries, hasc⟩, shown⟩, acked, nacked, rejected⟩ := b
  obtain ⟨⟨⟨entries', hasc'⟩, shown'⟩, acked', nacked', rejected'⟩ := b'
  obtain rfl : entries' = entries := hunanswered
  obtain rfl : shown' = shown := h'.trans h.symm
  obtain rfl : acked' = acked := hacked
  obtain rfl : nacked' = nacked := hnacked
  obtain rfl : rejected' = rejected := hrejected
  rfl

/-- A confirm does what it would do if it first said by itself what it says of the lowest tag. -/
theorem handle_lowest {b : Books α} (h : b.Current) {c : Confirm} {e : Tag × α}
    {rest : List (Tag × α)} (hcovered : b.unanswered.filter (fun e => c.covers e.1) = e :: rest) :
    let b' := (b.handle (c.about e.1)).2
    b'.unanswered.filter (fun e => c.covers e.1) = rest ∧ (b'.handle c).2 = (b.handle c).2 := by
  intro b'
  obtain ⟨hone, hrest, hout⟩ := filter_lowest b.ascending_unanswered hcovered
  have hfirst : (b.handle (c.about e.1)).1 = [e] := by
    rw [handle_fst]
    exact hone
  have hleft : b'.unanswered = b.unanswered.filter fun x => !(x.1 == e.1) := unanswered_handle ..
  have hrest' : (b'.handle c).1 = rest := by rw [handle_fst, hleft, hrest]
  have hcurrent := current_handle h (c.about e.1)
  refine ⟨by rw [hleft, hrest], eq_of_current (current_handle h c) (current_handle hcurrent c)
    ?_ ?_ ?_ ?_⟩
  · rw [unanswered_handle b', hleft, hout, unanswered_handle]
  · rw [acked_handle, hrest', acked_handle, acked_handle, hfirst, handle_fst, hcovered]
    change _ + (if c.verdict = .acked then 1 else 0) + _ = _
    split_ifs
    · rw [List.length_cons, Nat.add_assoc, Nat.add_comm 1]
    · rfl
  · rw [nacked_handle, hrest', nacked_handle, nacked_handle, hfirst, handle_fst, hcovered]
    change _ + (if c.verdict = .nacked then 1 else 0) + _ = _
    split_ifs
    · rw [List.length_cons, Nat.add_assoc, Nat.add_comm 1]
    · rfl
  · rw [rejected_handle, hrest', rejected_handle, rejected_handle, hfirst, handle_fst, hcovered,
      List.append_assoc]
    change _ ++ ((if c.verdict = .nacked then [e.2] else []) ++ _) = _
    split_ifs <;> rfl

/-- A confirm does what it would do if it said of each tag it resolves, in ascending order, what it
says of it. -/
theorem handle_singly {c : Confirm} : ∀ (es : List (Tag × α)) {b : Books α}, b.Current →
    b.unanswered.filter (fun e => c.covers e.1) = es →
    b.handleAll (es.map fun e => c.about e.1) = (b.handle c).2
  | [], b, _, hcovered => by rw [handle_of_none hcovered]; rfl
  | e :: es, b, h, hcovered => by
    obtain ⟨hrest, heq⟩ := handle_lowest h hcovered
    rw [List.map_cons, handleAll_cons, handle_singly es (current_handle h _) hrest, heq]

end Books

end ConfirmedDelivery
