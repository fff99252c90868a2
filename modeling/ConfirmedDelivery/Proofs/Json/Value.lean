import ConfirmedDelivery.Proofs.Dict
import ConfirmedDelivery.Proofs.Json.Record

/-!
# Values read back

The text of a value is read as that value, if the value is nested no deeper than the reader goes and
its numbers are ones a text can express (`Json.takes_chars`). Integers and reals stay apart, and so do
the two zeros among the reals.
-/

namespace ConfirmedDelivery.Json

/-- What a text can express within so many nested containers. -/
inductive Fits : ℕ → Json → Prop
  | null {depth : ℕ} : Fits depth .null
  | boolean {depth : ℕ} (b : Bool) : Fits depth (.boolean b)
  | integer {depth : ℕ} {i : ℤ} (hlow : -(twoPow 63 : ℤ) ≤ i) (hhigh : i < twoPow 64) :
      Fits depth (.integer i)
  | real {depth : ℕ} {x : Binary64} (hx : x.isFinite = true) : Fits depth (.real x)
  | text {depth : ℕ} (s : String) : Fits depth (.text s)
  | sequence {depth : ℕ} {items : List Json} (h : ∀ j ∈ items, Fits depth j) :
      Fits (depth + 1) (.sequence items)
  | mapping {depth : ℕ} {fields : List (String × Json)}
      (hascending : fields.Pairwise (fun a b => a.1 < b.1)) (h : ∀ f ∈ fields, Fits depth f.2) :
      Fits (depth + 1) (.mapping fields)

theorem BeginsNumber.beginsItem {v : List Char} : BeginsNumber v → BeginsItem v := by
  rintro ⟨c, cs, rfl, hc⟩
  refine ⟨c, cs, rfl, isSpace_of_startsNumber hc, ?_⟩
  rintro rfl
  cases hc

theorem Fits.beginsItem {depth : ℕ} {j : Json} (h : Fits depth j) : BeginsItem (chars j) := by
  cases h with
  | null => exact ⟨_, _, rfl, by decide, by decide⟩
  | boolean b => cases b <;> exact ⟨_, _, rfl, by decide, by decide⟩
  | integer => exact (beginsNumber_toString _).beginsItem
  | real hx => exact (beginsNumber_realChars hx).beginsItem
  | text => exact ⟨_, _, rfl, by decide, by decide⟩
  | sequence => exact ⟨_, _, rfl, by decide, by decide⟩
  | mapping => exact ⟨_, _, rfl, by decide, by decide⟩

/-! ## Containers -/

theorem ends_bracket (s : List Char) : Ends (']' :: s) := ⟨rfl, by decide, by decide, by decide⟩

section Items

variable {α : Type} {item : Reader α} {fuel : ℕ} {v tail rest : List Char} {x : α}

theorem items_first (hv : BeginsItem v) (h : Takes item v x) (htail : Ends tail) :
    items item (fuel + 1) true (v ++ tail)
      = (items item fuel false tail).map fun r => (x :: r.1, r.2) := by
  obtain ⟨c, cs, rfl, hc, hne⟩ := hv
  have hitem := h [] tail blank_nil htail
  rw [List.nil_append, List.cons_append] at hitem
  rw [items.eq_def]
  dsimp only
  rw [List.cons_append, skipSpace_cons hc]
  split
  · rename_i heq
    cases heq
  · rename_i heq
    cases heq
    exact absurd rfl hne
  · rename_i heq
    cases heq
    rw [if_pos rfl, hitem]
    change (items item fuel false tail).bind _ = _
    cases items item fuel false tail <;> rfl

theorem items_next (hv : BeginsItem v) (h : Takes item v x) (htail : Ends tail) :
    items item (fuel + 1) false (',' :: (v ++ tail))
      = (items item fuel false tail).map fun r => (x :: r.1, r.2) := by
  obtain ⟨c, cs, rfl, hc, hne⟩ := hv
  have hitem := h [] tail blank_nil htail
  rw [List.nil_append, List.cons_append] at hitem
  rw [items.eq_def]
  dsimp only
  rw [skipSpace_cons (by decide)]
  split
  · rename_i heq
    cases heq
  · rename_i heq
    cases heq
  · rename_i heq
    cases heq
    rw [if_neg Bool.false_ne_true, if_pos rfl, List.cons_append, skipSpace_cons hc]
    split
    · rename_i heq
      cases heq
    · rename_i heq
      cases heq
      exact absurd rfl hne
    · rw [hitem]
      change (items item fuel false tail).bind _ = _
      cases items item fuel false tail <;> rfl

end Items

theorem items_itemChars {item : Reader Json} (rest : List Char) : ∀ {js : List Json} {fuel : ℕ},
    js ≠ [] → (∀ j ∈ js, Takes item (chars j) j) →
    (∀ j ∈ js, BeginsItem (chars j)) →
    (itemChars js).length < fuel →
      items item fuel true (itemChars js ++ ']' :: rest) = .ok (js, rest)
        ∧ items item fuel false (',' :: (itemChars js ++ ']' :: rest)) = .ok (js, rest)
  | [], _, hne, _, _, _ => absurd rfl hne
  | [j], fuel, _, h, hbegins, hfuel => by
    have hj := hbegins j List.mem_cons_self
    have hchars : itemChars [j] = chars j := by rw [itemChars]
    rw [hchars] at hfuel ⊢
    obtain ⟨fuel, rfl⟩ : ∃ f, fuel = f + 1 + 1 := by
      obtain ⟨c, cs, hcons, -⟩ := hj
      rw [hcons, List.length_cons] at hfuel
      exact ⟨fuel - 2, by omega⟩
    rw [items_first hj (h j List.mem_cons_self) (ends_bracket rest),
      items_next hj (h j List.mem_cons_self) (ends_bracket rest)]
    exact ⟨rfl, rfl⟩
  | j :: j' :: js, fuel, _, h, hbegins, hfuel => by
    have hj := hbegins j List.mem_cons_self
    have hchars : itemChars (j :: j' :: js) = chars j ++ ',' :: itemChars (j' :: js) := by
      rw [itemChars]
      exact List.cons_ne_nil _ _
    rw [hchars] at hfuel ⊢
    obtain ⟨fuel, rfl⟩ : ∃ f, fuel = f + 1 := ⟨fuel - 1, by omega⟩
    have hfuel' : (itemChars (j' :: js)).length < fuel := by
      rw [List.length_append, List.length_cons] at hfuel
      omega
    have hnext := (items_itemChars rest (List.cons_ne_nil j' js)
      (fun x hx => h x (List.mem_cons_of_mem j hx))
      (fun x hx => hbegins x (List.mem_cons_of_mem j hx)) hfuel').2
    rw [List.append_assoc, List.cons_append,
      items_first hj (h j List.mem_cons_self) (ends_comma _),
      items_next hj (h j List.mem_cons_self) (ends_comma _), hnext]
    exact ⟨rfl, rfl⟩

section Fields

variable {σ : Type} {depth : ℕ} (put : σ → String → Json → σ)

/-- Takes in a member of a mapping: its value, after the colon. -/
def takeIn (depth : ℕ) (put : σ → String → Json → σ) (r : σ) (name : String) : Reader σ := fun s => do
  let (j, s) ← value depth (← colon s)
  .ok (put r name j, s)

theorem takeIn_chars {j : Json} (h : Takes (value depth) (chars j) j) (r : σ) (name : String)
    {rest : List Char} (hrest : Ends rest) :
    takeIn depth put r name ((':' :: chars j) ++ rest) = .ok (put r name j, rest) := by
  have hcolon : colon (':' :: (chars j ++ rest)) = .ok (chars j ++ rest) := colon_blank blank_nil
  unfold takeIn
  rw [List.cons_append, hcolon]
  change (value depth (chars j ++ rest)).bind _ = _
  rw [← List.nil_append (chars j ++ rest), h [] rest blank_nil hrest]
  rfl

theorem run_fieldChars : ∀ {fields : List (String × Json)} (r : σ), fields ≠ [] →
    (∀ f ∈ fields, Takes (value depth) (chars f.2) f.2) →
      Run (takeIn depth put) r (fieldChars fields) (fields.foldl (fun r f => put r f.1 f.2) r)
  | [], _, hne, _ => absurd rfl hne
  | [(k, j)], r, _, h => by
    have hlast := Run.last (a := []) (d := []) blank_nil (spells_escape k.toList) blank_nil
      fun rest hrest => takeIn_chars put (h _ List.mem_cons_self) r k hrest
    have hchars : fieldChars [(k, j)] = textChars k ++ ':' :: chars j := by rw [fieldChars]
    rw [hchars]
    simpa [textChars] using hlast
  | (k, j) :: f :: fields, r, _, h => by
    have hmore := Run.more (a := []) (d := []) blank_nil (spells_escape k.toList) blank_nil
      (fun rest hrest => takeIn_chars put (h _ List.mem_cons_self) r k hrest)
      (run_fieldChars (put r k j) (List.cons_ne_nil f fields)
        fun x hx => h x (List.mem_cons_of_mem _ hx))
    have hchars : fieldChars ((k, j) :: f :: fields)
        = textChars k ++ ':' :: chars j ++ ',' :: fieldChars (f :: fields) := by
      rw [fieldChars]
      exact List.cons_ne_nil _ _
    rw [hchars]
    simpa [textChars] using hmore

/-- An object is read member by member into what there is. -/
theorem members_fieldChars {fields : List (String × Json)} (r : σ) (rest : List Char)
    (h : ∀ f ∈ fields, Takes (value depth) (chars f.2) f.2) :
    members (takeIn depth put) ((fieldChars fields ++ '}' :: rest).length + 1) true r
        (fieldChars fields ++ '}' :: rest)
      = .ok (fields.foldl (fun r f => put r f.1 f.2) r, rest) := by
  by_cases hne : fields = []
  · subst hne
    exact members_close blank_nil true rest
  · exact (members_run (run_fieldChars put r hne h) rest
      (Nat.lt_succ_of_le (List.prefix_append _ _).length_le)).1

end Fields

theorem foldl_place {l acc : List (String × Json)} (h : (acc ++ l).Pairwise fun a b => a.1 < b.1) :
    l.foldl (fun l f => Dict.place f.1 f.2 l) acc = acc ++ l := by
  induction l generalizing acc with
  | nil => rw [List.foldl_nil, List.append_nil]
  | cons f l ih =>
    have hlast : ∀ e ∈ acc, e.1 < f.1 := fun e he =>
      (List.pairwise_append.1 h).2.2 e he f List.mem_cons_self
    rw [List.foldl_cons, Dict.place_last f.1 f.2 hlast, ih]
    · rw [List.append_assoc]
      rfl
    · rwa [List.append_assoc]

/-! ## Values -/

section Value

variable {depth : ℕ} {v : List Char} {j : Json}

theorem value_blank {a s : List Char} (ha : Blank a) : value depth (a ++ s) = value depth s := by
  rw [value.eq_def, value.eq_def depth s]
  dsimp only
  rw [skipSpace_blank ha]

theorem takes_value (h : ∀ rest, Ends rest → value depth (v ++ rest) = .ok (j, rest)) :
    Takes (value depth) v j := by
  intro a rest ha hrest
  rw [value_blank ha]
  exact h rest hrest

theorem value_number {rest : List Char} {n : Number} (hbegins : BeginsNumber v)
    (hnumber : number (v ++ rest) = .ok (n, rest))
    (hj : j = match n with
      | .integer i => .integer i
      | .real x => .real x) : value depth (v ++ rest) = .ok (j, rest) := by
  obtain ⟨c, cs, rfl, hc⟩ := hbegins
  rw [List.cons_append] at hnumber ⊢
  rw [value.eq_def]
  dsimp only
  rw [skipSpace_cons (isSpace_of_startsNumber hc)]
  split
  case h_8 =>
    rename_i heq
    cases heq
    rw [if_pos hc, hnumber, hj]
    cases n <;> rfl
  all_goals
    rename_i heq
    cases heq
    try cases hc

theorem takes_sequence {js : List Json} (h : ∀ j ∈ js, Takes (value depth) (chars j) j)
    (hbegins : ∀ j ∈ js, BeginsItem (chars j)) :
    Takes (value (depth + 1)) (chars (.sequence js)) (.sequence js) := by
  refine takes_value fun rest _ => ?_
  have hitems : items (value depth) ((itemChars js ++ ']' :: rest).length + 1) true
      (itemChars js ++ ']' :: rest) = .ok (js, rest) := by
    by_cases hne : js = []
    · subst hne
      rfl
    · exact (items_itemChars rest hne h hbegins
        (Nat.lt_succ_of_le (List.prefix_append _ _).length_le)).1
  rw [show chars (.sequence js) = '[' :: itemChars js ++ [']'] by rw [chars],
    List.append_assoc, List.cons_append, value.eq_def]
  dsimp only
  rw [skipSpace_cons (by decide)]
  change (items (value depth) ((itemChars js ++ ']' :: rest).length + 1) true
    (itemChars js ++ ']' :: rest)).bind _ = _
  rw [hitems]
  rfl

theorem takes_mapping {fields : List (String × Json)}
    (hascending : fields.Pairwise fun a b => a.1 < b.1)
    (h : ∀ f ∈ fields, Takes (value depth) (chars f.2) f.2) :
    Takes (value (depth + 1)) (chars (.mapping fields)) (.mapping fields) := by
  refine takes_value fun rest _ => ?_
  have hmembers := members_fieldChars (fun l k j => Dict.place k j l) [] rest h
  rw [foldl_place (by rwa [List.nil_append]), List.nil_append] at hmembers
  rw [show chars (.mapping fields) = '{' :: fieldChars fields ++ ['}'] by rw [chars],
    List.append_assoc, List.cons_append, value.eq_def]
  dsimp only
  rw [skipSpace_cons (by decide)]
  change (members (takeIn depth fun l k j => Dict.place k j l)
    ((fieldChars fields ++ '}' :: rest).length + 1) true [] (fieldChars fields ++ '}' :: rest)).bind
    _ = _
  rw [hmembers]
  rfl

/-- A value is read from its text. -/
theorem takes_chars (h : Fits depth j) : Takes (value depth) (chars j) j := by
  induction h with
  | null => exact takes_value fun _ _ => by rw [value.eq_def]; rfl
  | boolean b => exact takes_value fun _ _ => by rw [value.eq_def]; cases b <;> rfl
  | integer hlow hhigh =>
    exact takes_value fun rest hrest =>
      value_number (beginsNumber_toString _) (number_toString hlow hhigh hrest) rfl
  | real hx =>
    exact takes_value fun rest hrest =>
      value_number (beginsNumber_realChars hx) (number_realChars hx hrest) rfl
  | text s =>
    refine takes_value fun rest _ => ?_
    obtain ⟨t, ht, hread⟩ := textRest_textChars s
    rw [show chars (.text s) = textChars s by rw [chars], ht, List.cons_append, value.eq_def]
    dsimp only
    rw [skipSpace_cons (by decide)]
    change (textRest (t ++ rest)).bind _ = _
    rw [hread]
    rfl
  | sequence h ih => exact takes_sequence ih fun j hj => (h j hj).beginsItem
  | mapping hascending _ ih => exact takes_mapping hascending ih

end Value

end ConfirmedDelivery.Json
