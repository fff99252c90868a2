import ConfirmedDelivery.Proofs.Json.Grammar

/-!
# Records read back

A reader takes a value if it reads it from one text whatever stands around that text (`Takes`). The
readers of single values take what the writers wrote. An object is read member by member
(`members_run`), and a record from an object that names some of its fields in any order, with other
members among them, has those fields set and the others as in the given record (`Record.read_holds`).
-/

namespace ConfirmedDelivery.Json

variable {α σ : Type}

/-- A reader gets `x` from a text, with blanks before it and anything after it that ends it. -/
def Takes (r : Reader α) (v : List Char) (x : α) : Prop :=
  ∀ a rest, Blank a → Ends rest → r (a ++ (v ++ rest)) = .ok (x, rest)

/-! ## Readers of single values -/

section Single

variable {c : Char}

theorem startsNumber_iff : startsNumber c = true ↔ c = '-' ∨ c.isDigit = true := by
  unfold startsNumber
  cases hc : c.isDigit
  · rw [digit?_of_not_isDigit hc]
    simp
  · rw [digit?_of_isDigit hc]
    simp

theorem isSpace_of_startsNumber (h : startsNumber c = true) : isSpace c = false := by
  rcases startsNumber_iff.1 h with rfl | h
  · rfl
  · exact isSpace_of_isDigit h

theorem takes_number {v : List Char} {n : Number} {x : α} {expected : String}
    {accept : Number → Reader α} (hbegins : BeginsNumber v)
    (hnumber : ∀ rest, Ends rest → number (v ++ rest) = .ok (n, rest))
    (haccept : ∀ rest, accept n rest = .ok (x, rest)) :
    Takes (readNumber expected accept) v x := by
  obtain ⟨c, cs, rfl, hc⟩ := hbegins
  intro a rest ha hrest
  have hread := hnumber rest hrest
  unfold readNumber
  rw [skipSpace_blank ha, List.cons_append, skipSpace_cons (isSpace_of_startsNumber hc)]
  rw [List.cons_append] at hread
  dsimp only
  rw [if_pos hc, hread]
  exact haccept rest

theorem takes_real {x : Binary64} (hx : x.isFinite = true) : Takes readReal (realChars x) x :=
  takes_number (beginsNumber_realChars hx) (fun _ h => number_realChars hx h) fun _ => rfl

theorem takes_nat {n bound : ℕ} (hbound : n ≤ bound) (h64 : n < twoPow 64) (expected : String) :
    Takes (readNat bound expected) (natChars n) n := by
  refine takes_number (beginsNumber_natChars n) (fun rest hrest => number_natChars h64 hrest) fun rest => ?_
  dsimp only
  rw [if_pos ⟨Int.natCast_nonneg n, by exact_mod_cast hbound⟩, Int.toNat_natCast]

theorem takes_bool (b : Bool) : Takes readBool (boolChars b) b := by
  intro a rest ha _
  unfold readBool
  rw [skipSpace_blank ha]
  cases b <;> rfl

theorem takes_text (s : String) : Takes readText (textChars s) s := by
  intro a rest ha _
  obtain ⟨t, ht, hread⟩ := textRest_textChars s
  unfold readText
  rw [skipSpace_blank ha, ht, List.cons_append, skipSpace_cons (by decide)]
  exact hread rest

theorem takes_option {r : Reader α} {write : α → List Char} {o : Option α}
    (hbegins : ∀ x ∈ o, BeginsNumber (write x))
    (h : ∀ x ∈ o, Takes r (write x) x) : Takes (readOption r) (optionChars write o) o := by
  intro a rest ha hrest
  unfold readOption
  rw [skipSpace_blank ha]
  rcases o with _ | x
  · rfl
  · obtain ⟨c, cs, hwrite, hc⟩ := hbegins x rfl
    have hread := h x rfl [] rest blank_nil hrest
    unfold optionChars
    dsimp only
    rw [hwrite, List.nil_append, List.cons_append] at hread
    rw [hwrite, List.cons_append, skipSpace_cons (isSpace_of_startsNumber hc)]
    split
    · rename_i heq
      cases heq
      rcases startsNumber_iff.1 hc with h | h <;> cases h
    · rw [hread]
      rfl

theorem takes_variant {variants : List (String × α)} {name : String} {x : α}
    (h : variants.lookup name = some x) (depth : ℕ) :
    Takes (readVariant variants depth) (textChars name) x := by
  intro a rest ha _
  obtain ⟨t, ht, hread⟩ := textRest_textChars name
  unfold readVariant
  rw [skipSpace_blank ha, ht, List.cons_append, skipSpace_cons (by decide)]
  change (textRest (t ++ rest)).bind _ = _
  rw [hread]
  dsimp only [Except.bind]
  rw [h]

end Single

/-! ## Objects -/

theorem colon_blank {b rest : List Char} (hb : Blank b) : colon (b ++ ':' :: rest) = .ok rest := by
  unfold colon
  rw [skipSpace_blank hb, skipSpace_cons (by decide)]
  rfl

/-- Members of an object, one at least, that are taken in one after the other. -/
inductive Run (member : σ → String → Reader σ) : σ → List Char → σ → Prop
  | last {r r' : σ} {name : String} {a k m d : List Char} (ha : Blank a)
      (hk : Spells name.toList k) (hd : Blank d)
      (hm : ∀ rest, Ends rest → member r name (m ++ rest) = .ok (r', rest)) :
      Run member r (a ++ '\"' :: (k ++ '\"' :: (m ++ d))) r'
  | more {r r' r'' : σ} {name : String} {a k m d s : List Char} (ha : Blank a)
      (hk : Spells name.toList k) (hd : Blank d)
      (hm : ∀ rest, Ends rest → member r name (m ++ rest) = .ok (r', rest))
      (hs : Run member r' s r'') : Run member r (a ++ '\"' :: (k ++ '\"' :: (m ++ (d ++ ',' :: s)))) r''

section Members

variable {member : σ → String → Reader σ} {fuel : ℕ} {r r' : σ} {name : String}
  {a k m d tail : List Char}

theorem members_close (hd : Blank d) (first : Bool) (rest : List Char) :
    members member (fuel + 1) first r (d ++ '}' :: rest) = .ok (r, rest) := by
  unfold members
  rw [skipSpace_blank hd, skipSpace_cons (by decide)]
  rfl

theorem members_first (ha : Blank a) (hk : Spells name.toList k) (htail : Ends tail)
    (hm : ∀ rest, Ends rest → member r name (m ++ rest) = .ok (r', rest)) :
    members member (fuel + 1) true r (a ++ '\"' :: (k ++ '\"' :: (m ++ tail)))
      = members member fuel false r' tail := by
  rw [members.eq_def]
  dsimp only
  rw [skipSpace_blank ha, skipSpace_cons (by decide)]
  change (textRest (k ++ '\"' :: (m ++ tail))).bind _ = _
  rw [textRest_spells hk]
  change (member r name (m ++ tail)).bind _ = _
  rw [hm tail htail]
  rfl

theorem members_next (hd : Blank d) (ha : Blank a) (hk : Spells name.toList k) (htail : Ends tail)
    (hm : ∀ rest, Ends rest → member r name (m ++ rest) = .ok (r', rest)) :
    members member (fuel + 1) false r (d ++ ',' :: (a ++ '\"' :: (k ++ '\"' :: (m ++ tail))))
      = members member fuel false r' tail := by
  rw [members.eq_def]
  dsimp only
  rw [skipSpace_blank hd, skipSpace_cons (by decide)]
  split
  · rename_i heq
    cases heq
  · rename_i heq
    cases heq
  · rename_i heq
    cases heq
    rw [if_neg Bool.false_ne_true, if_pos rfl, skipSpace_blank ha, skipSpace_cons (by decide)]
    change (textRest (k ++ '\"' :: (m ++ tail))).bind _ = _
    rw [textRest_spells hk]
    change (member r name (m ++ tail)).bind _ = _
    rw [hm tail htail]
    rfl

theorem ends_comma (s : List Char) : Ends (',' :: s) := ⟨rfl, by decide, by decide, by decide⟩

theorem ends_brace (s : List Char) : Ends ('}' :: s) := ⟨rfl, by decide, by decide, by decide⟩

theorem members_run {s : List Char} (h : Run member r s r') (rest : List Char) :
    ∀ {fuel : ℕ}, s.length < fuel →
      members member fuel true r (s ++ '}' :: rest) = .ok (r', rest)
        ∧ ∀ d, Blank d → members member fuel false r (d ++ ',' :: (s ++ '}' :: rest))
          = .ok (r', rest) := by
  induction h with
  | @last r r' name a k m d ha hk hd hm =>
    intro fuel hfuel
    simp only [List.length_append, List.length_cons] at hfuel
    obtain ⟨fuel, rfl⟩ : ∃ f, fuel = f + 1 + 1 := ⟨fuel - 2, by omega⟩
    have htail := ends_blank hd (ends_brace rest)
    simp only [List.append_assoc, List.cons_append]
    constructor
    · rw [members_first ha hk htail hm, members_close hd]
    · intro b hb
      rw [members_next hb ha hk htail hm, members_close hd]
  | @more r r' r'' name a k m d s ha hk hd hm hs ih =>
    intro fuel hfuel
    simp only [List.length_append, List.length_cons] at hfuel
    obtain ⟨fuel, rfl⟩ : ∃ f, fuel = f + 1 := ⟨fuel - 1, by omega⟩
    have htail := ends_blank hd (ends_comma (s ++ '}' :: rest))
    have hs' : s.length < fuel := by omega
    have hnext := (ih hs').2 d hd
    simp only [List.append_assoc, List.cons_append]
    constructor
    · rw [members_first ha hk htail hm, hnext]
    · intro b hb
      rw [members_next hb ha hk htail hm, hnext]

end Members

/-! ## Records -/

/-- Members of an object with the given names in this order, each name spelled in any way and each
value being one of those allowed under its name. -/
inductive Holds (allowed : String → List Char → Prop) : List String → List Char → Prop
  | nothing {b : List Char} (hb : Blank b) : Holds allowed [] b
  | last {name : String} {a k b c v d : List Char} (ha : Blank a) (hk : Spells name.toList k)
      (hb : Blank b) (hc : Blank c) (hv : allowed name v) (hd : Blank d) :
      Holds allowed [name] (a ++ '\"' :: (k ++ '\"' :: (b ++ ':' :: (c ++ (v ++ d)))))
  | more {name next : String} {names : List String} {a k b c v d s : List Char} (ha : Blank a)
      (hk : Spells name.toList k) (hb : Blank b) (hc : Blank c) (hv : allowed name v)
      (hd : Blank d) (hs : Holds allowed (next :: names) s) :
      Holds allowed (name :: next :: names)
        (a ++ '\"' :: (k ++ '\"' :: (b ++ ':' :: (c ++ (v ++ (d ++ ',' :: s))))))

namespace Record

variable {fields : List (Field σ)} {depth : ℕ} {name : String} {v : List Char}

/-- What a member of an object does to a record: it sets the field of its name, or it is skipped. -/
structure Sets (fields : List (Field σ)) (depth : ℕ) (name : String) (v : List Char)
    (set : σ → σ) : Prop where
  known : ∀ f, fields.find? (fun f => f.name == name) = some f → Takes (f.read depth) v set
  unknown : fields.find? (fun f => f.name == name) = none → IsValue v ∧ set = id

theorem member_sets {set : σ → σ} (h : Sets fields depth name v set) (r : σ) {seen : List String}
    (hname : name ∉ seen) {b c : List Char} (hb : Blank b) (hc : Blank c) :
    ∃ seen', (∀ n ∈ seen', n = name ∨ n ∈ seen) ∧ ∀ rest, Ends rest →
      member fields depth (r, seen) name ((b ++ ':' :: (c ++ v)) ++ rest)
        = .ok ((set r, seen'), rest) := by
  have hassoc : ∀ rest, (b ++ ':' :: (c ++ v)) ++ rest = b ++ ':' :: (c ++ (v ++ rest)) := by
    intro rest
    simp only [List.append_assoc, List.cons_append]
  rcases hfind : fields.find? (fun f => f.name == name) with _ | f
  · obtain ⟨hv, rfl⟩ := h.unknown hfind
    refine ⟨seen, fun n hn => .inr hn, fun rest hrest => ?_⟩
    unfold member
    rw [hfind, hassoc, colon_blank hb]
    change (skip (c ++ (v ++ rest))).bind _ = _
    rw [skip_value hc hv hrest]
    rfl
  · refine ⟨name :: seen, fun n hn => List.mem_cons.1 hn, fun rest hrest => ?_⟩
    unfold member
    rw [hfind, hassoc, colon_blank hb]
    dsimp only
    rw [if_neg hname]
    change (f.read depth (c ++ (v ++ rest))).bind _ = _
    rw [h.known f hfind c rest hc hrest]
    rfl

variable {allowed : String → List Char → Prop} {set : String → σ → σ}

theorem run_holds (h : ∀ name v, allowed name v → Sets fields depth name v (set name))
    {names : List String} {s : List Char} (hs : Holds allowed names s) (hne : names ≠ [])
    (hnodup : names.Nodup) (r : σ) (seen : List String) (hseen : ∀ n ∈ names, n ∉ seen) :
    ∃ seen', Run (member fields depth) (r, seen) s (names.foldl (fun r n => set n r) r, seen') := by
  induction hs generalizing r seen with
  | nothing => exact absurd rfl hne
  | @last name a k b c v d ha hk hb hc hv hd =>
    obtain ⟨seen', -, hmember⟩ := member_sets (h _ _ hv) r (hseen name List.mem_cons_self) hb hc
    refine ⟨seen', ?_⟩
    have := Run.last ha hk hd hmember
    simp only [List.append_assoc, List.cons_append] at this
    exact this
  | @more name next names a k b c v d s ha hk hb hc hv hd hs ih =>
    obtain ⟨seen', hsub, hmember⟩ := member_sets (h _ _ hv) r (hseen name List.mem_cons_self) hb hc
    obtain ⟨hfresh, hrest⟩ := List.nodup_cons.1 hnodup
    -- only this name was added to those seen, and it does not come again
    obtain ⟨seen'', hrun⟩ := ih (List.cons_ne_nil _ _) hrest (set name r) seen'
      fun n hn hmem => (hsub n hmem).elim (fun heq => hfresh (heq ▸ hn))
        (hseen n (List.mem_cons_of_mem name hn))
    refine ⟨seen'', ?_⟩
    have := Run.more ha hk hd hmember hrun
    simp only [List.append_assoc, List.cons_append] at this
    exact this

variable (set) in
/-- A record is read from an object that names some of its fields. -/
theorem read_holds {names : List String} {s : List Char} (expected : String) (blank : σ)
    (h : ∀ name v, allowed name v → Sets fields depth name v (set name))
    (hs : Holds allowed names s) (hnodup : names.Nodup) :
    Takes (read expected fields blank (depth + 1)) ('{' :: (s ++ ['}']))
      (names.foldl (fun r n => set n r) blank) := by
  intro a rest ha _
  have hread : ∃ seen, members (member fields depth) ((s ++ '}' :: rest).length + 1) true (blank, [])
      (s ++ '}' :: rest) = .ok ((names.foldl (fun r n => set n r) blank, seen), rest) := by
    by_cases hne : names = []
    · subst hne
      cases hs with
      | nothing hb => exact ⟨[], members_close hb true rest⟩
    · obtain ⟨seen, hrun⟩ := run_holds h hs hne hnodup blank [] fun n _ => List.not_mem_nil
      exact ⟨seen, (members_run hrun rest (Nat.lt_succ_of_le (List.prefix_append _ _).length_le)).1⟩
  obtain ⟨seen, hread⟩ := hread
  unfold read
  rw [skipSpace_blank ha, List.cons_append, skipSpace_cons (by decide), List.append_assoc]
  change (members (member fields depth) ((s ++ '}' :: rest).length + 1) true (blank, [])
    (s ++ '}' :: rest)).bind _ = _
  rw [hread]
  rfl

/-- The values allowed under a name: those given for the field of that name, or any well-formed one
if there is no such field. -/
def Allowed (fields : List (Field σ)) (given : Field σ → List Char → Prop) (name : String)
    (v : List Char) : Prop :=
  match fields.find? (fun f => f.name == name) with
  | some f => given f v
  | none => IsValue v

theorem sets_allowed {given : Field σ → List Char → Prop}
    (hknown : ∀ f ∈ fields, ∀ v, given f v → Takes (f.read depth) v (set f.name))
    (hunknown : ∀ name, name ∉ fields.map (·.name) → set name = id)
    (h : Allowed fields given name v) : Sets fields depth name v (set name) where
  known f hf := by
    have hname : f.name = name := by simpa using List.find?_some hf
    unfold Allowed at h
    rw [hf] at h
    exact hname ▸ hknown f (List.mem_of_find?_eq_some hf) v h
  unknown hf := by
    unfold Allowed at h
    rw [hf] at h
    refine ⟨h, hunknown name fun hmem => ?_⟩
    obtain ⟨f, hmem, hname⟩ := List.mem_map.1 hmem
    exact List.find?_eq_none.1 hf f hmem (by simpa using hname)

theorem allowed_of_mem {given : Field σ → List Char → Prop} (hnodup : (fields.map (·.name)).Nodup)
    {f : Field σ} (hf : f ∈ fields) (h : given f v) : Allowed fields given f.name v := by
  have hfind : fields.find? (fun g => g.name == f.name) = some f := by
    rcases hnone : fields.find? (fun g => g.name == f.name) with _ | g
    · exact absurd (by simp) (List.find?_eq_none.1 hnone f hf)
    · have hname : g.name = f.name := by simpa using List.find?_some hnone
      rw [hnone]
      exact congrArg some
        (List.inj_on_of_nodup_map hnodup (List.mem_of_find?_eq_some hnone) hf hname)
  unfold Allowed
  rw [hfind]
  exact h

theorem holds_memberChars {r : σ} : ∀ {fields : List (Field σ)},
    (∀ f ∈ fields, allowed f.name (f.write r)) →
      Holds allowed (fields.map (·.name)) (memberChars r fields)
  | [], _ => .nothing blank_nil
  | [f], h => by
    have hlast := Holds.last (a := []) (b := []) (c := []) (d := []) blank_nil
      (spells_escape f.name.toList) blank_nil blank_nil
      (h f List.mem_cons_self) blank_nil
    simpa [memberChars, textChars] using hlast
  | f :: g :: fields, h => by
    have hrest : Holds allowed ((g :: fields).map (·.name)) (memberChars r (g :: fields)) :=
      holds_memberChars fun x hx => h x (List.mem_cons_of_mem f hx)
    have hmore := Holds.more (a := []) (b := []) (c := []) (d := []) blank_nil
      (spells_escape f.name.toList) blank_nil blank_nil
      (h f List.mem_cons_self) blank_nil hrest
    simpa [memberChars, textChars] using hmore

end Record

theorem takes_of {name : String} {read : ℕ → Reader α} {write : α → List Char} {get : σ → α}
    {set : α → σ → σ} {depth : ℕ} {v : List Char} {x : α} (h : Takes (read depth) v x) :
    Takes ((Field.of name read write get set).read depth) v (set x) := by
  intro a rest ha hrest
  change (read depth (a ++ (v ++ rest))).bind _ = _
  rw [h a rest ha hrest]
  rfl

/-- A whole text that holds a value and nothing else but blanks. -/
theorem readAll_takes {r : Reader α} {v a b : List Char} {x : α} (h : Takes r v x) (ha : Blank a)
    (hb : Blank b) : readAll r (String.ofList (a ++ (v ++ b))) = .ok x := by
  have hends : Ends b := by
    have := ends_blank hb (s := []) trivial
    rwa [List.append_nil] at this
  have hskip : skipSpace b = [] := by
    have := skipSpace_blank hb (s := [])
    rwa [List.append_nil] at this
  unfold readAll
  simp only [String.toList_ofList, h a b ha hends]
  dsimp only [bind, Except.bind]
  rw [hskip]

end ConfirmedDelivery.Json
