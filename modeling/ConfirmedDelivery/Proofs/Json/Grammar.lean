import ConfirmedDelivery.Proofs.Json.Number
import ConfirmedDelivery.Proofs.Json.Text

/-!
# The grammar of JSON texts

What a well-formed value is (`IsValue`), with blanks where they may stand, numbers of any size and
escapes of any unit. What nobody asked for is skipped whole if it is well-formed (`skip_value`): each
construct costs at most three steps for a character of it.
-/

namespace ConfirmedDelivery.Json

/-- Blanks and nothing else. -/
def Blank (s : List Char) : Prop := ∀ c ∈ s, isSpace c = true

instance (s : List Char) : Decidable (Blank s) :=
  decidable_of_iff (s.all isSpace = true) List.all_eq_true

/-- Decimal places, or none. -/
inductive IsFraction : List Char → Prop
  | none : IsFraction []
  | places {f : List Char} (hne : f ≠ []) (hf : ∀ c ∈ f, c.isDigit = true) : IsFraction ('.' :: f)

/-- A power of ten, or none. -/
inductive IsPower : List Char → Prop
  | none : IsPower []
  | power {e : Char} {sign ds : List Char} (he : e = 'e' ∨ e = 'E')
      (hsign : sign = [] ∨ sign = ['+'] ∨ sign = ['-']) (hne : ds ≠ [])
      (hds : ∀ c ∈ ds, c.isDigit = true) : IsPower (e :: (sign ++ ds))

/-- What may stand between quotes. -/
inductive IsBody : List Char → Prop
  | nil : IsBody []
  | plain {c : Char} {s : List Char} (hquote : c ≠ '\"') (hslash : c ≠ '\\') (hcontrol : ¬ c < ' ')
      (hs : IsBody s) : IsBody (c :: s)
  | letter {e c : Char} {s : List Char} (h : (e, c) ∈ letters) (hs : IsBody s) :
      IsBody ('\\' :: e :: s)
  | unit {u s : List Char} {n : ℕ} (hu : IsUnit u n) (hs : IsBody s) :
      IsBody ('\\' :: 'u' :: (u ++ s))

mutual

/-- A well-formed value, without blanks around it. -/
inductive IsValue : List Char → Prop
  | nullWord : IsValue "null".toList
  | trueWord : IsValue "true".toList
  | falseWord : IsValue "false".toList
  | number {sign w f p : List Char} (hsign : sign = [] ∨ sign = ['-']) (hw : IsWhole w)
      (hf : IsFraction f) (hp : IsPower p) : IsValue (sign ++ (w ++ (f ++ p)))
  | text {s : List Char} (hs : IsBody s) : IsValue ('\"' :: (s ++ ['\"']))
  | nothing {b : List Char} (hb : Blank b) : IsValue ('[' :: (b ++ [']']))
  | list {s : List Char} (hs : IsItems s) : IsValue ('[' :: (s ++ [']']))
  | empty {b : List Char} (hb : Blank b) : IsValue ('{' :: (b ++ ['}']))
  | object {s : List Char} (hs : IsMembers s) : IsValue ('{' :: (s ++ ['}']))

/-- The items of a list, one at least. -/
inductive IsItems : List Char → Prop
  | last {a v b : List Char} (ha : Blank a) (hv : IsValue v) (hb : Blank b) : IsItems (a ++ (v ++ b))
  | more {a v b s : List Char} (ha : Blank a) (hv : IsValue v) (hb : Blank b) (hs : IsItems s) :
      IsItems (a ++ (v ++ (b ++ ',' :: s)))

/-- The members of an object, one at least. -/
inductive IsMembers : List Char → Prop
  | last {a k b c v d : List Char} (ha : Blank a) (hk : IsBody k) (hb : Blank b) (hc : Blank c)
      (hv : IsValue v) (hd : Blank d) :
      IsMembers (a ++ '\"' :: (k ++ '\"' :: (b ++ ':' :: (c ++ (v ++ d)))))
  | more {a k b c v d s : List Char} (ha : Blank a) (hk : IsBody k) (hb : Blank b) (hc : Blank c)
      (hv : IsValue v) (hd : Blank d) (hs : IsMembers s) :
      IsMembers (a ++ '\"' :: (k ++ '\"' :: (b ++ ':' :: (c ++ (v ++ (d ++ ',' :: s))))))

end

/-! ## Blanks -/

theorem blank_nil : Blank [] := fun _ h => absurd h List.not_mem_nil

theorem skipSpace_blank {b s : List Char} (hb : Blank b) : skipSpace (b ++ s) = skipSpace s := by
  unfold skipSpace
  rw [List.dropWhile_append_of_pos hb]

theorem skipSpace_cons {c : Char} {s : List Char} (hc : isSpace c = false) :
    skipSpace (c :: s) = c :: s := by
  unfold skipSpace
  rw [List.dropWhile_cons_of_neg (by rw [hc]; decide)]

theorem ends_blank {b s : List Char} (hb : Blank b) (hs : Ends s) : Ends (b ++ s) := by
  rcases b with _ | ⟨c, b⟩
  · exact hs
  · have hc := hb c List.mem_cons_self
    simp only [isSpace, Bool.or_eq_true, beq_iff_eq] at hc
    rcases hc with ((rfl | rfl) | rfl) | rfl <;> exact ⟨rfl, by decide, by decide, by decide⟩

/-! ## Skipping numbers and strings -/

variable {w f p rest : List Char}

theorem takeDigits_rest {ds : List Char} (hds : ∀ c ∈ ds, c.isDigit = true)
    (hrest : NoDigit rest) : (takeDigits 0 0 (ds ++ rest)).2.2 = rest := by
  rw [takeDigits_append hrest 0 0 hds]

theorem skipPower_append {sign ds : List Char} (hsign : sign = [] ∨ sign = ['+'] ∨ sign = ['-'])
    (hne : ds ≠ []) (hds : ∀ c ∈ ds, c.isDigit = true) (hrest : NoDigit rest) :
    skipPower (sign ++ (ds ++ rest)) = .ok rest := by
  obtain ⟨c, ds, rfl⟩ := List.exists_cons_of_ne_nil hne
  have hc := hds c List.mem_cons_self
  have htake := takeDigits_rest (fun d hd => hds d (List.mem_cons_of_mem c hd)) hrest
  have hplus : c ≠ '+' := fun h => by rw [h] at hc; cases hc
  have hminus : c ≠ '-' := fun h => by rw [h] at hc; cases hc
  rcases hsign with rfl | rfl | rfl <;> simp [skipPower, hplus, hminus, digit?_of_isDigit hc, htake]

theorem skipFraction_power (hp : IsPower p) (hrest : Ends rest) :
    skipFraction (p ++ rest) = .ok rest := by
  cases hp with
  | none =>
    rcases rest with _ | ⟨c, rest⟩
    · rfl
    · obtain ⟨-, hpoint, he, hE⟩ := hrest
      unfold skipFraction
      split
      · rename_i heq
        cases heq
        exact absurd rfl hpoint
      · rename_i heq
        cases heq
        exact if_neg (not_or.2 ⟨he, hE⟩)
      · rename_i heq
        cases heq
  | @power e sign ds he hsign hne hds =>
    have hpower := skipPower_append hsign hne hds hrest.noDigit
    rw [List.cons_append, List.append_assoc]
    rcases he with rfl | rfl <;> exact hpower

theorem noDigit_power (hp : IsPower p) (hrest : Ends rest) : NoDigit (p ++ rest) := by
  cases hp with
  | none => exact hrest.noDigit
  | power he => rcases he with rfl | rfl <;> rfl

theorem skipMagnitude_append (hw : IsWhole w) (hf : IsFraction f) (hp : IsPower p)
    (hrest : Ends rest) : skipMagnitude (w ++ (f ++ (p ++ rest))) = .ok rest := by
  have hpower := skipFraction_power hp hrest
  have hno := noDigit_power hp hrest
  cases hf with
  | none => rw [List.nil_append, skipMagnitude_whole hw hno, hpower]
  | @places f hne hf =>
    obtain ⟨k, hk⟩ := Nat.exists_eq_succ_of_ne_zero (List.length_pos_iff.2 hne).ne'
    rw [List.cons_append, skipMagnitude_whole hw (show NoDigit ('.' :: _) from rfl)]
    rw [skipFraction, takeDigits_append hno 0 0 hf, hk, Nat.zero_add]
    cases hp with
    | none =>
      rcases rest with _ | ⟨c, rest⟩
      · rfl
      · obtain ⟨-, -, he, hE⟩ := hrest
        exact if_neg (not_or.2 ⟨he, hE⟩)
    | @power e sign ds he hsign hne hds =>
      rw [List.cons_append, List.append_assoc]
      exact (if_pos he).trans (skipPower_append hsign hne hds hrest.noDigit)

theorem skipText_body {s : List Char} (hs : IsBody s) : ∀ {fuel : ℕ}, s.length < fuel →
    skipText fuel (s ++ '\"' :: rest) = .ok rest := by
  induction hs with
  | nil =>
    rintro (_ | fuel) hfuel
    · cases hfuel
    · rfl
  | @plain c s hquote hslash hcontrol hs ih =>
    rintro (_ | fuel) hfuel
    · cases hfuel
    · change (if c = '\"' then _ else if c = '\\' then _ else if c < ' ' then _
        else skipText fuel _) = _
      rw [if_neg hquote, if_neg hslash, if_neg hcontrol]
      exact ih (Nat.lt_of_succ_lt_succ hfuel)
  | @letter e c s h hs ih =>
    rintro (_ | fuel) hfuel
    · cases hfuel
    · simp only [List.length_cons] at hfuel
      simp only [letters, List.mem_cons, Prod.mk.injEq, List.not_mem_nil, or_false] at h
      rcases h with ⟨rfl, -⟩ | ⟨rfl, -⟩ | ⟨rfl, -⟩ | ⟨rfl, -⟩ | ⟨rfl, -⟩ | ⟨rfl, -⟩ | ⟨rfl, -⟩
        | ⟨rfl, -⟩ <;> exact ih (by omega)
  | @unit u s n hu hs ih =>
    rintro (_ | fuel) hfuel
    · cases hfuel
    · simp only [List.length_cons, List.length_append] at hfuel
      change (hexUnit (u ++ s ++ _)).bind _ = _
      rw [List.append_assoc, hexUnit_append hu]
      exact ih (by omega)

/-! ## Skipping values -/

variable {fuel : ℕ} {outer : List Bracket} {bracket : Bracket} {b s : List Char}

theorem skipFrom_value_blank (hb : Blank b) :
    skipFrom fuel .value outer (b ++ s) = skipFrom fuel .value outer s := by
  rcases fuel with _ | fuel
  · rfl
  · unfold skipFrom
    rw [skipSpace_blank hb]

theorem skipFrom_opened_blank (hb : Blank b) :
    skipFrom fuel (.opened bracket) outer (b ++ s) = skipFrom fuel (.opened bracket) outer s := by
  rcases fuel with _ | fuel
  · rfl
  · cases bracket
    all_goals
      unfold skipFrom
      rw [skipSpace_blank hb]

theorem skipFrom_done_blank (hb : Blank b) :
    skipFrom fuel .done (bracket :: outer) (b ++ s) = skipFrom fuel .done (bracket :: outer) s := by
  rcases fuel with _ | fuel
  · rfl
  · cases bracket
    all_goals
      unfold skipFrom
      rw [skipSpace_blank hb]

theorem isSpace_of_isDigit {c : Char} (h : c.isDigit = true) : isSpace c = false := by
  rw [← Bool.not_eq_true]
  intro hc
  simp only [isSpace, Bool.or_eq_true, beq_iff_eq] at hc
  rcases hc with ((rfl | rfl) | rfl) | rfl <;> cases h

/-- Begins as an item of a list does: with no blank, and with no closing bracket. -/
def BeginsItem (v : List Char) : Prop := ∃ c cs, v = c :: cs ∧ isSpace c = false ∧ c ≠ ']'

theorem IsValue.beginsItem {v : List Char} (h : IsValue v) : BeginsItem v := by
  cases h with
  | nullWord => exact ⟨_, _, rfl, by decide, by decide⟩
  | trueWord => exact ⟨_, _, rfl, by decide, by decide⟩
  | falseWord => exact ⟨_, _, rfl, by decide, by decide⟩
  | text => exact ⟨_, _, rfl, by decide, by decide⟩
  | nothing => exact ⟨_, _, rfl, by decide, by decide⟩
  | list => exact ⟨_, _, rfl, by decide, by decide⟩
  | empty => exact ⟨_, _, rfl, by decide, by decide⟩
  | object => exact ⟨_, _, rfl, by decide, by decide⟩
  | @number sign w f p hsign hw hf hp =>
    rcases hsign with rfl | rfl
    · obtain ⟨c, ds, rfl, hc⟩ := hw.exists_cons
      refine ⟨c, _, rfl, isSpace_of_isDigit hc, ?_⟩
      rintro rfl
      cases hc
    · exact ⟨_, _, rfl, by decide, by decide⟩

theorem skipFrom_number {sign : List Char} (hsign : sign = [] ∨ sign = ['-']) (hw : IsWhole w)
    (hf : IsFraction f) (hp : IsPower p) (hrest : Ends rest) :
    skipFrom (fuel + 1) .value outer (sign ++ (w ++ (f ++ (p ++ rest))))
      = skipFrom fuel .done outer rest := by
  have hskip := skipMagnitude_append hw hf hp hrest
  rcases hsign with rfl | rfl
  · obtain ⟨c, ds, rfl, hc⟩ := hw.exists_cons
    rw [List.nil_append, List.cons_append] at *
    rw [skipFrom.eq_def]
    dsimp only
    rw [skipSpace_cons (isSpace_of_isDigit hc)]
    split
    case h_9 =>
      rename_i heq
      cases heq
      rw [digit?_of_isDigit hc, Option.isSome_some, if_pos rfl, hskip]
      rfl
    all_goals
      rename_i heq
      cases heq
      try cases hc
  · change (skipMagnitude (w ++ (f ++ (p ++ rest)))).bind _ = _
    rw [hskip]
    rfl

theorem skipKey_body {a k c : List Char} (ha : Blank a) (hk : IsBody k) (hb : Blank b) :
    skipKey (a ++ '\"' :: (k ++ '\"' :: (b ++ ':' :: c))) = .ok c := by
  unfold skipKey
  rw [skipSpace_blank ha, skipSpace_cons (by decide)]
  change (skipText _ _).bind _ = _
  rw [skipText_body hk (Nat.lt_succ_of_le (List.prefix_append _ _).length_le), Except.bind,
    skipSpace_blank hb, skipSpace_cons (by decide)]
  rfl

theorem skipFrom_items (hs : IsItems s) : skipFrom (fuel + 1) (.opened .list) outer (s ++ rest)
    = skipFrom fuel .value (.list :: outer) (s ++ rest) := by
  obtain ⟨a, t, rfl, ha, c, u, rfl, hc, hne⟩ : ∃ a t, s = a ++ t ∧ Blank a ∧ BeginsItem t := by
    cases hs with
    | last ha hv hb =>
      obtain ⟨c, u, rfl, hc, hne⟩ := hv.beginsItem
      exact ⟨_, _, rfl, ha, c, _, rfl, hc, hne⟩
    | more ha hv hb hs =>
      obtain ⟨c, u, rfl, hc, hne⟩ := hv.beginsItem
      exact ⟨_, _, rfl, ha, c, _, rfl, hc, hne⟩
  rw [List.append_assoc, skipFrom_opened_blank ha, skipFrom_value_blank ha, List.cons_append]
  rw [skipFrom.eq_def]
  dsimp only
  rw [skipSpace_cons hc]
  split
  · rename_i heq
    cases heq
  · rename_i heq
    cases heq
    exact absurd rfl hne
  · rfl

theorem skipFrom_members (hs : IsMembers s) :
    skipFrom (fuel + 1) (.opened .object) outer (s ++ rest)
      = (skipKey (s ++ rest)).bind (skipFrom fuel .value (.object :: outer)) := by
  have hkey : ∀ {a t}, Blank a → skipFrom (fuel + 1) (.opened .object) outer (a ++ '\"' :: t)
      = (skipKey (a ++ '\"' :: t)).bind (skipFrom fuel .value (.object :: outer)) := by
    intro a t ha
    rw [skipFrom_opened_blank ha]
    unfold skipKey
    rw [skipSpace_blank ha]
    rfl
  cases hs with
  | last ha => simpa only [List.append_assoc, List.cons_append] using hkey ha
  | more ha => simpa only [List.append_assoc, List.cons_append] using hkey ha

theorem length_enclosed {α : Type} (x y : α) (l : List α) :
    (x :: (l ++ [y])).length = l.length + 2 := by
  rw [List.length_cons, List.length_append, List.length_singleton]

-- a text of the grammar takes `n` steps, which its length bounds; what is left is for the rest
mutual

theorem skipFrom_isValue : ∀ {v : List Char}, IsValue v → ∃ n ≤ 3 * v.length,
    ∀ fuel outer rest, Ends rest →
      skipFrom (fuel + n) .value outer (v ++ rest) = skipFrom fuel .done outer rest
  | _, .nullWord => ⟨1, by decide, fun fuel outer rest _ => rfl⟩
  | _, .trueWord => ⟨1, by decide, fun fuel outer rest _ => rfl⟩
  | _, .falseWord => ⟨1, by decide, fun fuel outer rest _ => rfl⟩
  | _, .number (w := w) hsign hw hf hp => by
    refine ⟨1, ?_, fun fuel outer rest hrest => ?_⟩
    · obtain ⟨c, ds, rfl, -⟩ := hw.exists_cons
      simp only [List.length_append, List.length_cons]
      omega
    · simp only [List.append_assoc]
      exact skipFrom_number hsign hw hf hp hrest
  | _, .text (s := s) hs => by
    refine ⟨1, by rw [length_enclosed]; omega, fun fuel outer rest _ => ?_⟩
    rw [List.cons_append, List.append_assoc]
    change (skipText _ _).bind _ = _
    rw [List.cons_append, List.nil_append,
      skipText_body hs (Nat.lt_succ_of_le (List.prefix_append _ _).length_le)]
    rfl
  | _, .nothing hb => by
    refine ⟨2, by rw [length_enclosed]; omega, fun fuel outer rest _ => ?_⟩
    rw [List.cons_append, List.append_assoc]
    change skipFrom (fuel + 1) (.opened .list) outer _ = _
    rw [skipFrom_opened_blank hb]
    rfl
  | _, .list hs => by
    obtain ⟨n, hn, hitems⟩ := skipFrom_isItems hs
    refine ⟨n + 2, by rw [length_enclosed]; omega, fun fuel outer rest _ => ?_⟩
    rw [List.cons_append, List.append_assoc]
    change skipFrom (fuel + n + 1) (.opened .list) outer _ = _
    rw [skipFrom_items hs]
    exact hitems fuel outer rest
  | _, .empty hb => by
    refine ⟨2, by rw [length_enclosed]; omega, fun fuel outer rest _ => ?_⟩
    rw [List.cons_append, List.append_assoc]
    change skipFrom (fuel + 1) (.opened .object) outer _ = _
    rw [skipFrom_opened_blank hb]
    rfl
  | _, .object hs => by
    obtain ⟨n, hn, hmembers⟩ := skipFrom_isMembers hs
    refine ⟨n + 2, by rw [length_enclosed]; omega, fun fuel outer rest _ => ?_⟩
    rw [List.cons_append, List.append_assoc]
    change skipFrom (fuel + n + 1) (.opened .object) outer _ = _
    rw [skipFrom_members hs]
    exact hmembers fuel outer rest

theorem skipFrom_isItems : ∀ {s : List Char}, IsItems s → ∃ n ≤ 3 * s.length + 1,
    ∀ fuel outer rest, skipFrom (fuel + n) .value (.list :: outer) (s ++ ']' :: rest)
      = skipFrom fuel .done outer rest
  | _, .last (a := a) (v := v) (b := b) ha hv hb => by
    obtain ⟨n, hn, hvalue⟩ := skipFrom_isValue hv
    refine ⟨n + 1, by simp only [List.length_append]; omega, fun fuel outer rest => ?_⟩
    simp only [List.append_assoc]
    rw [skipFrom_value_blank ha, Nat.add_comm n, ← Nat.add_assoc, hvalue, skipFrom_done_blank hb]
    · rfl
    · exact ends_blank hb ⟨rfl, by decide, by decide, by decide⟩
  | _, .more (a := a) (v := v) (b := b) ha hv hb hs => by
    obtain ⟨n, hn, hvalue⟩ := skipFrom_isValue hv
    obtain ⟨m, hm, hitems⟩ := skipFrom_isItems hs
    refine ⟨m + 1 + n, by simp only [List.length_append, List.length_cons]; omega,
      fun fuel outer rest => ?_⟩
    simp only [List.append_assoc, List.cons_append]
    rw [skipFrom_value_blank ha, ← Nat.add_assoc, hvalue, skipFrom_done_blank hb]
    · exact hitems fuel outer rest
    · exact ends_blank hb ⟨rfl, by decide, by decide, by decide⟩

theorem skipFrom_isMembers : ∀ {s : List Char}, IsMembers s → ∃ n ≤ 3 * s.length + 1,
    ∀ fuel outer rest, (skipKey (s ++ '}' :: rest)).bind
      (skipFrom (fuel + n) .value (.object :: outer)) = skipFrom fuel .done outer rest
  | _, .last (k := k) (v := v) (d := d) ha hk hb hc hv hd => by
    obtain ⟨n, hn, hvalue⟩ := skipFrom_isValue hv
    refine ⟨1 + n, by simp only [List.length_append, List.length_cons]; omega,
      fun fuel outer rest => ?_⟩
    simp only [List.append_assoc, List.cons_append]
    rw [skipKey_body ha hk hb]
    change skipFrom _ .value _ _ = _
    rw [skipFrom_value_blank hc, ← Nat.add_assoc, hvalue, skipFrom_done_blank hd]
    · rfl
    · exact ends_blank hd ⟨rfl, by decide, by decide, by decide⟩
  | _, .more (k := k) (v := v) (d := d) ha hk hb hc hv hd hs => by
    obtain ⟨n, hn, hvalue⟩ := skipFrom_isValue hv
    obtain ⟨m, hm, hmembers⟩ := skipFrom_isMembers hs
    refine ⟨m + 1 + n, by simp only [List.length_append, List.length_cons]; omega,
      fun fuel outer rest => ?_⟩
    simp only [List.append_assoc, List.cons_append]
    rw [skipKey_body ha hk hb]
    change skipFrom _ .value _ _ = _
    rw [skipFrom_value_blank hc, ← Nat.add_assoc, hvalue, skipFrom_done_blank hd]
    · exact hmembers fuel outer rest
    · exact ends_blank hd ⟨rfl, by decide, by decide, by decide⟩

end

/-- A well-formed value is skipped, whatever it holds. -/
theorem skip_value {a v : List Char} (ha : Blank a) (hv : IsValue v) (hrest : Ends rest) :
    skip (a ++ (v ++ rest)) = .ok rest := by
  obtain ⟨n, hn, hvalue⟩ := skipFrom_isValue hv
  unfold skip
  obtain ⟨k, hk⟩ : ∃ k, 3 * (a ++ (v ++ rest)).length + 3 = k + 1 + n := by
    refine ⟨3 * (a ++ (v ++ rest)).length + 2 - n, ?_⟩
    simp only [List.length_append]
    omega
  rw [hk, skipFrom_value_blank ha, hvalue _ _ _ hrest]
  rfl

end ConfirmedDelivery.Json
