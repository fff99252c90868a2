/-!
# Finite maps in ascending key order

A `Dict` lists its entries by strictly ascending key, so two dicts with the same lookups list the
same entries, and cutting a dict by any test on its keys leaves a dict (`Dict.keep`). Inserting
under a key that is present replaces the value and keeps the place.
-/

namespace ConfirmedDelivery

universe u v w

/-- A finite map whose entries stand in strictly ascending key order. -/
structure Dict (κ : Type u) (α : Type v) [LT κ] where
  entries : List (κ × α)
  ascending : entries.Pairwise (fun a b => a.1 < b.1)

namespace Dict

section Listing

variable {κ : Type u} {α : Type v} [LT κ] [DecidableLT κ]

/-- The listing with `k ↦ a` put in its place. -/
def place (k : κ) (a : α) : List (κ × α) → List (κ × α)
  | [] => [(k, a)]
  | e :: rest =>
    if k < e.1 then (k, a) :: e :: rest
    else if e.1 < k then e :: place k a rest
    else (e.1, a) :: rest

theorem mem_place {k : κ} {a : α} {e : κ × α} :
    ∀ {l : List (κ × α)}, e ∈ place k a l → e.1 = k ∨ ∃ b, (e.1, b) ∈ l
  | [], h => by simp_all [place]
  | x :: rest, h => by
    unfold place at h
    split at h
    · rcases List.mem_cons.1 h with rfl | h
      · exact .inl rfl
      · exact .inr ⟨e.2, h⟩
    · split at h
      · rcases List.mem_cons.1 h with rfl | h
        · exact .inr ⟨e.2, List.mem_cons_self⟩
        · rcases mem_place h with h | ⟨b, h⟩
          · exact .inl h
          · exact .inr ⟨b, List.mem_cons_of_mem _ h⟩
      · rcases List.mem_cons.1 h with rfl | h
        · exact .inr ⟨x.2, List.mem_cons_self⟩
        · exact .inr ⟨e.2, List.mem_cons_of_mem _ h⟩

theorem ascending_place [LE κ] [Std.LawfulOrderLT κ] [Std.IsLinearOrder κ] (k : κ) (a : α) :
    ∀ {l : List (κ × α)}, l.Pairwise (fun a b => a.1 < b.1) →
      (place k a l).Pairwise (fun a b => a.1 < b.1)
  | [], _ => List.pairwise_singleton _ _
  | x :: rest, h => by
    obtain ⟨hx, hrest⟩ := List.pairwise_cons.1 h
    unfold place
    split
    · next hk =>
      refine List.pairwise_cons.2 ⟨?_, h⟩
      intro e he
      rcases List.mem_cons.1 he with rfl | he
      · exact hk
      · exact Std.lt_trans hk (hx e he)
    · split
      · next hk =>
        refine List.pairwise_cons.2 ⟨?_, ascending_place k a hrest⟩
        intro e he
        rcases mem_place he with h | ⟨b, h⟩
        · rw [h]; exact hk
        · exact hx (e.1, b) h
      · exact List.pairwise_cons.2 ⟨hx, hrest⟩

end Listing

variable {κ : Type u} {α : Type v} {β : Type w} [LT κ]

/-- The map with no entry. -/
def empty : Dict κ α := ⟨[], List.Pairwise.nil⟩

instance : EmptyCollection (Dict κ α) := ⟨empty⟩

instance : Inhabited (Dict κ α) := ⟨∅⟩

instance [DecidableEq κ] [DecidableEq α] : DecidableEq (Dict κ α) := fun a b =>
  if h : a.entries = b.entries then
    .isTrue (by cases a; cases b; simp_all)
  else .isFalse (fun e => h (e ▸ rfl))

@[ext] theorem ext {a b : Dict κ α} (h : a.entries = b.entries) : a = b := by
  cases a; cases b; simp_all

/-- The number of entries. -/
def size (d : Dict κ α) : Nat := d.entries.length

/-- The keys, ascending. -/
def keys (d : Dict κ α) : List κ := d.entries.map Prod.fst

/-- The values, by ascending key. -/
def values (d : Dict κ α) : List α := d.entries.map Prod.snd

/-- The value under `k`. -/
def get? [DecidableEq κ] (d : Dict κ α) (k : κ) : Option α :=
  (d.entries.find? (fun e => e.1 = k)).map Prod.snd

/-- Whether `k` has a value. -/
def contains [DecidableEq κ] (d : Dict κ α) (k : κ) : Bool :=
  d.entries.any (fun e => e.1 = k)

/-- The map with `k ↦ a`, whatever stood there before. -/
def insert [DecidableLT κ] [LE κ] [Std.LawfulOrderLT κ] [Std.IsLinearOrder κ]
    (d : Dict κ α) (k : κ) (a : α) : Dict κ α :=
  ⟨place k a d.entries, ascending_place k a d.ascending⟩

/-- The part of the map whose entries pass the test. -/
def keep (p : κ → α → Bool) (d : Dict κ α) : Dict κ α :=
  ⟨d.entries.filter (fun e => p e.1 e.2), d.ascending.filter _⟩

/-- The map with nothing under `k`. -/
def erase [DecidableEq κ] (k : κ) (d : Dict κ α) : Dict κ α := d.keep fun k' _ => decide (k' ≠ k)

/-- The map cut in two: what stands below `k`, and what stands at `k` or above. -/
def splitOff [DecidableLT κ] (k : κ) (d : Dict κ α) : Dict κ α × Dict κ α :=
  (d.keep fun k' _ => decide (k' < k), d.keep fun k' _ => !decide (k' < k))

/-- The map with each value `a` under `k` replaced by `f k a`. -/
def mapValues (f : κ → α → β) (d : Dict κ α) : Dict κ β :=
  ⟨d.entries.map (fun e => (e.1, f e.1 e.2)), by
    rw [List.pairwise_map]
    exact d.ascending⟩

/-- The entries from first to last, a later entry replacing an earlier one of its key. -/
def ofList [DecidableLT κ] [LE κ] [Std.LawfulOrderLT κ] [Std.IsLinearOrder κ]
    (l : List (κ × α)) : Dict κ α :=
  l.foldl (fun d e => d.insert e.1 e.2) ∅

@[simp] theorem entries_empty : (∅ : Dict κ α).entries = [] := rfl

@[simp] theorem entries_keep (p : κ → α → Bool) (d : Dict κ α) :
    (d.keep p).entries = d.entries.filter (fun e => p e.1 e.2) := rfl

theorem contains_iff [DecidableEq κ] {d : Dict κ α} {k : κ} :
    d.contains k = true ↔ k ∈ d.keys := by
  simp [contains, keys]

end Dict

end ConfirmedDelivery
