import ConfirmedDelivery.Dict
import Mathlib.Data.List.Nodup

/-!
# Dicts as sets of entries

A dict is known by the entries in it: a lookup finds a value exactly if the entry is there
(`get?_eq_some`), and an insertion leaves every entry of another key (`entries_insert_perm`). What
an insertion at the end does is plain: the entry goes last (`entries_insert_last`). And of a list of
entries that a dict is made of, the last one of each key counts (`get?_ofList`).
-/

namespace ConfirmedDelivery.Dict

universe u v

variable {κ : Type u} {α : Type v}

section Place

variable [LT κ] [DecidableLT κ] [LE κ] [Std.LawfulOrderLT κ] [Std.IsLinearOrder κ]

omit [DecidableLT κ] in
theorem eq_of_not_lt {a b : κ} (h : ¬ a < b) (h' : ¬ b < a) : a = b :=
  Std.le_antisymm (Std.not_lt.1 h') (Std.not_lt.1 h)

theorem place_perm [DecidableEq κ] (k : κ) (a : α) :
    ∀ {l : List (κ × α)}, l.Pairwise (fun a b => a.1 < b.1) →
      (place k a l).Perm ((k, a) :: l.filter (fun e => e.1 ≠ k))
  | [], _ => List.Perm.refl _
  | x :: rest, h => by
    obtain ⟨hx, hrest⟩ := List.pairwise_cons.1 h
    unfold place
    split
    · next hk =>
      have hne : ∀ e ∈ x :: rest, decide (e.1 ≠ k) = true := by
        intro e he
        have hke : k < e.1 := by
          rcases List.mem_cons.1 he with rfl | he
          · exact hk
          · exact Std.lt_trans hk (hx e he)
        simpa using (Std.ne_of_lt hke).symm
      rw [List.filter_eq_self.2 hne]
    · split
      · next hk =>
        rw [List.filter_cons_of_pos (by simpa using Std.ne_of_lt hk)]
        exact ((place_perm k a hrest).cons x).trans (List.Perm.swap _ _ _)
      · next hk hk' =>
        obtain rfl := eq_of_not_lt hk hk'
        have hne : ∀ e ∈ rest, decide (e.1 ≠ x.1) = true := by
          intro e he
          simpa using (Std.ne_of_lt (hx e he)).symm
        rw [List.filter_cons_of_neg (by simp), List.filter_eq_self.2 hne]

omit [LE κ] [Std.LawfulOrderLT κ] [Std.IsLinearOrder κ] in
theorem place_map {β : Type*} (f : α → β) (k : κ) (a : α) : ∀ l : List (κ × α),
    (place k a l).map (fun e => (e.1, f e.2)) = place k (f a) (l.map fun e => (e.1, f e.2))
  | [] => rfl
  | x :: rest => by
    have ih := place_map f k a rest
    rw [List.map_cons]
    unfold place
    split_ifs
    · rfl
    · rw [List.map_cons, ih]
    · rfl

theorem place_present (k : κ) (a : α) : ∀ {l : List (κ × α)},
    l.Pairwise (fun a b => a.1 < b.1) → (k, a) ∈ l → place k a l = l
  | x :: rest, h, hmem => by
    obtain ⟨hx, hrest⟩ := List.pairwise_cons.1 h
    unfold place
    rcases List.mem_cons.1 hmem with rfl | hmem
    · rw [if_neg (Std.lt_irrefl (a := k)), if_neg (Std.lt_irrefl (a := k))]
    · have hlt : x.1 < k := hx _ hmem
      rw [if_neg (Std.not_lt.2 (Std.le_of_lt hlt)), if_pos hlt, place_present k a hrest hmem]

theorem place_last (k : κ) (a : α) :
    ∀ {l : List (κ × α)}, (∀ e ∈ l, e.1 < k) → place k a l = l ++ [(k, a)]
  | [], _ => rfl
  | x :: rest, h => by
    have hx := h x List.mem_cons_self
    have ih := place_last k a (l := rest) fun e he => h e (List.mem_cons_of_mem _ he)
    unfold place
    rw [if_neg (Std.not_lt.2 (Std.le_of_lt hx)), if_pos hx, ih, List.cons_append]

/-- What is added at the end of the list under a key stands last of all if there is nothing under
later keys. -/
theorem flatten_place [DecidableEq κ] (k : κ) (a : α) : ∀ {l : List (κ × List α)},
    l.Pairwise (fun a b => a.1 < b.1) → (∀ e ∈ l, k < e.1 → e.2 = []) →
    ((place k (((l.find? fun e => e.1 = k).map Prod.snd).getD [] ++ [a]) l).map Prod.snd).flatten
      = (l.map Prod.snd).flatten ++ [a]
  | [], _, _ => rfl
  | x :: rest, h, hlast => by
    obtain ⟨hx, hrest⟩ := List.pairwise_cons.1 h
    obtain ⟨hxlast, hlast⟩ := List.forall_mem_cons.1 hlast
    have hnone {l : List (κ × List α)} (hl : ∀ e ∈ l, k < e.1) (hempty : ∀ e ∈ l, k < e.1 → e.2 = []) :
        (l.map Prod.snd).flatten = [] := by
      rw [List.flatten_eq_nil_iff, List.forall_mem_map]
      exact fun e he => hempty e he (hl e he)
    unfold place
    split_ifs with hlt hgt
    · have hall : ∀ e ∈ x :: rest, k < e.1 :=
        List.forall_mem_cons.2 ⟨hlt, fun e he => Std.lt_trans hlt (hx e he)⟩
      have hfind : (x :: rest).find? (fun e => e.1 = k) = none :=
        List.find?_eq_none.2 fun e he => by simpa using (Std.ne_of_lt (hall e he)).symm
      rw [hfind, List.map_cons, List.flatten_cons, hnone hall (List.forall_mem_cons.2 ⟨hxlast, hlast⟩)]
      rfl
    · have hne : decide (x.1 = k) = false := decide_eq_false (Std.ne_of_lt hgt)
      rw [List.find?_cons_of_neg (by simpa using hne), List.map_cons, List.flatten_cons,
        flatten_place k a hrest hlast, List.map_cons, List.flatten_cons, List.append_assoc]
    · obtain rfl := eq_of_not_lt hgt hlt
      rw [List.find?_cons_of_pos (by simp), List.map_cons, List.flatten_cons, List.map_cons,
        List.flatten_cons, hnone hx hlast, List.append_nil, List.append_nil]
      rfl

theorem filter_le_append [DecidableLE κ] (k : κ) : ∀ {l : List (κ × α)},
    l.Pairwise (fun a b => a.1 < b.1) →
    l.filter (fun e => decide (e.1 ≤ k)) ++ l.filter (fun e => decide (k < e.1)) = l
  | [], _ => rfl
  | x :: rest, h => by
    obtain ⟨hx, hrest⟩ := List.pairwise_cons.1 h
    have ih := filter_le_append k hrest
    by_cases hle : x.1 ≤ k
    · rw [List.filter_cons_of_pos (by simpa using hle),
        List.filter_cons_of_neg (by simpa using Std.not_lt.2 hle), List.cons_append, ih]
    · have hlt : k < x.1 := Std.not_le.1 hle
      have hlater : ∀ e ∈ rest, k < e.1 := fun e he => Std.lt_trans hlt (hx e he)
      have hnone : rest.filter (fun e => decide (e.1 ≤ k)) = [] :=
        List.filter_eq_nil_iff.2 fun e he => by simpa using Std.not_le.2 (hlater e he)
      rw [hnone, List.nil_append] at ih
      rw [List.filter_cons_of_neg (by simpa using hle), hnone, List.nil_append,
        List.filter_cons_of_pos (by simpa using hlt), ih]

end Place

variable [LT κ]

theorem keys_mapValues {β : Type*} (f : α → β) (d : Dict κ α) :
    (d.mapValues fun _ => f).keys = d.keys := by
  unfold keys mapValues
  rw [List.map_map]
  rfl

theorem nodup_keys [LE κ] [Std.LawfulOrderLT κ] [Std.IsLinearOrder κ] (d : Dict κ α) :
    d.keys.Nodup := by
  unfold keys
  rw [List.nodup_iff_pairwise_ne, List.pairwise_map]
  exact d.ascending.imp fun h => Std.ne_of_lt h

section Lookup

variable [DecidableEq κ]

theorem contains_eq_false {d : Dict κ α} {k : κ} :
    d.contains k = false ↔ ∀ e ∈ d.entries, e.1 ≠ k := by
  simp [contains]

theorem contains_mapValues {β : Type*} (f : α → β) (d : Dict κ α) (k : κ) :
    (d.mapValues fun _ => f).contains k = d.contains k := by
  unfold contains mapValues
  rw [List.any_map]
  rfl

theorem get?_mapValues {β : Type*} (f : α → β) (d : Dict κ α) (k : κ) :
    (d.mapValues fun _ => f).get? k = (d.get? k).map f := by
  unfold get? mapValues
  rw [List.find?_map, Option.map_map, Option.map_map]
  rfl

variable [LE κ] [Std.LawfulOrderLT κ] [Std.IsLinearOrder κ]

theorem get?_eq_some {d : Dict κ α} {k : κ} {a : α} : d.get? k = some a ↔ (k, a) ∈ d.entries := by
  unfold get?
  constructor
  · intro h
    obtain ⟨e, he, rfl⟩ := Option.map_eq_some_iff.1 h
    have hk : e.1 = k := by simpa using List.find?_some he
    subst hk
    exact List.mem_of_find?_eq_some he
  · intro h
    rcases hf : d.entries.find? (fun e => e.1 = k) with _ | e
    · have := List.find?_eq_none.1 hf (k, a) h
      simp at this
    · have hk : e.1 = k := by simpa using List.find?_some hf
      have he : e = (k, a) :=
        List.inj_on_of_nodup_map (nodup_keys d) (List.mem_of_find?_eq_some hf) h hk
      rw [hf, he]
      rfl

/-- The entry under one key, if there is one. -/
theorem filter_entries_eq (d : Dict κ α) (k : κ) :
    (d.entries.filter fun e => decide (e.1 = k)) = (d.get? k).toList.map (k, ·) := by
  have hmem : ∀ e, e ∈ (d.entries.filter fun e => decide (e.1 = k))
      ↔ e.1 = k ∧ d.get? k = some e.2 := by
    rintro ⟨k', a⟩
    rw [List.mem_filter, decide_eq_true_eq, get?_eq_some]
    constructor
    · rintro ⟨hm, rfl⟩
      exact ⟨rfl, hm⟩
    · rintro ⟨rfl, hm⟩
      exact ⟨hm, rfl⟩
  have hone : (d.entries.filter fun e => decide (e.1 = k)).Pairwise fun _ _ => False :=
    (d.ascending.filter _).imp_of_mem fun {e e'} he he' hlt =>
      Std.ne_of_lt hlt (((hmem e).1 he).1.trans ((hmem e').1 he').1.symm)
  rcases hl : d.entries.filter fun e => decide (e.1 = k) with _ | ⟨e, l⟩
  · rw [hl] at hmem ⊢
    cases hk : d.get? k with
    | none => rfl
    | some a => exact absurd ((hmem (k, a)).2 ⟨rfl, hk⟩) List.not_mem_nil
  · rw [hl] at hone hmem
    obtain rfl : l = [] := List.eq_nil_iff_forall_not_mem.2 fun x hx =>
      (List.pairwise_cons.1 hone).1 x hx
    obtain ⟨heq, hk⟩ := (hmem e).1 List.mem_cons_self
    rw [hl, hk, ← heq]
    rfl

end Lookup

section Insert

variable [DecidableEq κ] [DecidableLT κ] [LE κ] [Std.LawfulOrderLT κ] [Std.IsLinearOrder κ]

theorem entries_insert_perm (d : Dict κ α) (k : κ) (a : α) :
    (d.insert k a).entries.Perm ((k, a) :: d.entries.filter (fun e => e.1 ≠ k)) :=
  place_perm k a d.ascending

theorem entries_insert_fresh {d : Dict κ α} {k : κ} (h : d.contains k = false) (a : α) :
    (d.insert k a).entries.Perm ((k, a) :: d.entries) := by
  have hne := contains_eq_false.1 h
  have hf : d.entries.filter (fun e => e.1 ≠ k) = d.entries :=
    List.filter_eq_self.2 fun e he => by simpa using hne e he
  exact hf ▸ entries_insert_perm d k a

theorem mem_entries_insert {d : Dict κ α} {k : κ} {a : α} {e : κ × α} :
    e ∈ (d.insert k a).entries ↔ e = (k, a) ∨ e ∈ d.entries ∧ e.1 ≠ k := by
  rw [(entries_insert_perm d k a).mem_iff]
  simp

theorem get?_insert (d : Dict κ α) (k k' : κ) (a : α) :
    (d.insert k a).get? k' = if k' = k then some a else d.get? k' := by
  apply Option.ext
  intro b
  rw [get?_eq_some, mem_entries_insert]
  split
  · next h => simp [h, eq_comm]
  · next h => simp [h, get?_eq_some]

theorem contains_insert (d : Dict κ α) (k k' : κ) (a : α) :
    (d.insert k a).contains k' = (decide (k' = k) || d.contains k') := by
  rw [Bool.eq_iff_iff]
  simp only [contains, List.any_eq_true, mem_entries_insert, Bool.or_eq_true, decide_eq_true_eq]
  constructor
  · rintro ⟨e, rfl | ⟨he, -⟩, rfl⟩
    · exact .inl rfl
    · exact .inr ⟨e, he, rfl⟩
  · rintro (rfl | ⟨e, he, rfl⟩)
    · exact ⟨_, .inl rfl, rfl⟩
    · by_cases hk : e.1 = k
      · exact ⟨_, .inl rfl, hk.symm⟩
      · exact ⟨e, .inr ⟨he, hk⟩, rfl⟩

omit [DecidableEq κ] in
theorem mapValues_insert {β : Type*} (f : α → β) (d : Dict κ α) (k : κ) (a : α) :
    (d.insert k a).mapValues (fun _ => f) = (d.mapValues fun _ => f).insert k (f a) :=
  Dict.ext (place_map f k a d.entries)

/-- To insert what is there already changes nothing. -/
theorem insert_present {d : Dict κ α} {k : κ} {a : α} (h : d.get? k = some a) : d.insert k a = d :=
  Dict.ext (place_present k a d.ascending (get?_eq_some.1 h))

omit [DecidableEq κ] in
theorem entries_insert_last {d : Dict κ α} {k : κ} (h : ∀ e ∈ d.entries, e.1 < k) (a : α) :
    (d.insert k a).entries = d.entries ++ [(k, a)] :=
  place_last k a h

theorem flatten_insert_last {d : Dict κ (List α)} {k : κ} (h : ∀ e ∈ d.entries, k < e.1 → e.2 = [])
    (a : α) : (d.insert k ((d.get? k).getD [] ++ [a])).values.flatten = d.values.flatten ++ [a] :=
  flatten_place k a d.ascending h

omit [DecidableEq κ] in
/-- What stands up to a key, and what stands after it. -/
theorem values_keep_append [DecidableLE κ] (d : Dict κ α) (k : κ) :
    (d.keep fun k' _ => decide (k' ≤ k)).values ++ (d.keep fun k' _ => decide (k < k')).values
      = d.values := by
  unfold values
  rw [← List.map_append]
  exact congrArg (List.map Prod.snd) (filter_le_append k d.ascending)

end Insert

section Fold

variable [DecidableEq κ] [DecidableLT κ] [LE κ] [Std.LawfulOrderLT κ] [Std.IsLinearOrder κ]

omit [DecidableLT κ] in
/-- Two dicts with the same lookups are the same. -/
theorem ext_get? {a b : Dict κ α} (h : ∀ k, a.get? k = b.get? k) : a = b := by
  have hmem : ∀ e, e ∈ a.entries ↔ e ∈ b.entries := fun e => by
    rw [← get?_eq_some (k := e.1) (a := e.2), ← get?_eq_some (k := e.1) (a := e.2), h]
  have hnodup : ∀ d : Dict κ α, d.entries.Nodup := fun d => (nodup_keys d).of_map _
  have hperm := (List.perm_ext_iff_of_nodup (hnodup a) (hnodup b)).2 hmem
  exact Dict.ext (hperm.eq_of_pairwise
    (fun _ _ _ _ hlt hgt => absurd (Std.lt_trans hlt hgt) Std.lt_irrefl) a.ascending b.ascending)

/-- The last entry of a key decides. -/
theorem get?_foldl_insert (k : κ) : ∀ (l : List (κ × α)) (d : Dict κ α),
    (l.foldl (fun d e => d.insert e.1 e.2) d).get? k = (l.reverse.lookup k).or (d.get? k)
  | [], _ => rfl
  | e :: l, d => by
    have hlast : ([e].lookup k).or (d.get? k) = if k = e.1 then some e.2 else d.get? k := by
      rw [List.lookup_cons]
      by_cases hk : k = e.1
      · rw [if_pos hk, beq_iff_eq.2 hk]
        rfl
      · rw [if_neg hk, beq_eq_false_iff_ne.2 hk]
        rfl
    rw [List.foldl_cons, get?_foldl_insert k l, List.reverse_cons, List.lookup_append,
      Option.or_assoc, get?_insert, hlast]

theorem get?_ofList (k : κ) (l : List (κ × α)) : (ofList l).get? k = l.reverse.lookup k := by
  unfold ofList
  rw [get?_foldl_insert]
  exact Option.or_none

theorem mem_keys_ofList {k : κ} {l : List (κ × α)} : k ∈ (ofList l).keys ↔ k ∈ l.map Prod.fst := by
  have hlookup : (∃ a, (ofList l).get? k = some a) ↔ ∃ e ∈ l, k = e.1 := by
    rw [get?_ofList, ← Option.isSome_iff_exists, List.lookup_isSome_iff]
    simp
  unfold keys
  rw [List.mem_map, List.mem_map]
  constructor
  · rintro ⟨⟨k', a⟩, hmem, rfl⟩
    obtain ⟨e, he, hk⟩ := hlookup.1 ⟨a, get?_eq_some.2 hmem⟩
    exact ⟨e, he, hk.symm⟩
  · rintro ⟨e, he, rfl⟩
    obtain ⟨a, ha⟩ := hlookup.2 ⟨e, he, rfl⟩
    exact ⟨(e.1, a), get?_eq_some.1 ha, rfl⟩

/-- A dict is had from its entries in any order. -/
theorem ofList_perm {d : Dict κ α} {l : List (κ × α)} (h : l.Perm d.entries) : ofList l = d := by
  refine ext_get? fun k => Option.ext fun a => ?_
  have hnodup : (l.reverse.map Prod.fst).Nodup :=
    (((l.reverse_perm.trans h).map Prod.fst).nodup_iff).2 (nodup_keys d)
  rw [get?_ofList, get?_eq_some, ← h.mem_iff, ← List.mem_reverse]
  constructor
  · intro hlookup
    obtain ⟨l₁, l₂, heq, -⟩ := List.lookup_eq_some_iff.1 hlookup
    rw [heq]
    exact List.mem_append_right _ List.mem_cons_self
  · intro hmem
    obtain ⟨l₁, l₂, heq⟩ := List.append_of_mem hmem
    refine List.lookup_eq_some_iff.2 ⟨l₁, l₂, heq, fun e he => ?_⟩
    rw [heq, List.map_append, List.nodup_append] at hnodup
    have hne := hnodup.2.2 e.1 (List.mem_map_of_mem he) k List.mem_cons_self
    simpa using hne.symm

end Fold

end ConfirmedDelivery.Dict
