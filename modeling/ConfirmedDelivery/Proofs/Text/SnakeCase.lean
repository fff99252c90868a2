import ConfirmedDelivery.Text.TypePath
import Mathlib.Data.List.Basic

/-!
# Names in snake case

A name in snake case is made of pieces, one for each character, and the piece of a character depends
on its neighbours in the name alone (`encode_eq`): the last character written, at which the encoder
looks as well, never decides anything. So it can be said where each underscore comes from, and that
nothing but dividers is lost (`snakeCase_loses_nothing`). A text without capitals and dividers stays
as it is, so the snake case of a snake case is the same again, unless a capital has no lowercase form.
-/

namespace ConfirmedDelivery.Text

/-! ## Lowercase forms -/

theorem CodeShift.target_le_of_find? {n m : ℕ} : ∀ {l : List CodeShift}, find? n l = some m →
    ∃ s ∈ l, s.target ≤ m
  | [], h => by simp [find?] at h
  | s :: rest, h => by
    unfold find? at h
    split_ifs at h
    · obtain rfl := Option.some.inj h
      exact ⟨s, List.mem_cons_self, Nat.le_add_right _ _⟩
    · obtain ⟨s', hs', hle⟩ := target_le_of_find? h
      exact ⟨s', List.mem_cons_of_mem _ hs', hle⟩

theorem target_lowercaseShifts : ∀ s ∈ lowercaseShifts, '_'.toNat < s.target := by decide +kernel

theorem toNat_ofNat (n : ℕ) : (Char.ofNat n).toNat = n ∨ Char.ofNat n = '\x00' := by
  by_cases h : n.isValidChar
  · exact .inl (by rw [Char.ofNat, dif_pos h]; rfl)
  · exact .inr (by rw [Char.ofNat, dif_neg h]; rfl)

theorem lowercase_ne_nil (c : Char) : lowercase c ≠ [] := by
  unfold lowercase
  split
  · exact List.cons_ne_nil _ _
  · split <;> exact List.cons_ne_nil _ _

namespace SnakeCase

/-- Whether the character becomes an underscore. -/
def separates (c : Char) : Bool := isDivider c || c == '_'

theorem separates_iff {c : Char} : separates c = true ↔ c = '-' ∨ c = ' ' ∨ c = '_' := by
  simp [separates, isDivider, or_assoc]

theorem cased_of_separates {c : Char} (h : separates c = true) :
    isUppercase c = false ∧ isLowercase c = false ∧ isDigit c = false := by
  rcases separates_iff.1 h with rfl | rfl | rfl <;> decide +kernel

/-- No character but themselves has hyphens, blanks or underscores in its lowercase form. -/
theorem separates_of_mem_lowercase {c d : Char} (h : d ∈ lowercase c) (hne : d ≠ c) :
    separates d = false := by
  unfold lowercase at h
  split at h
  · simp only [List.mem_cons, List.not_mem_nil, or_false] at h
    rcases h with rfl | rfl <;> decide
  · split at h
    · next n hn =>
      obtain rfl := List.mem_singleton.1 h
      obtain ⟨s, hs, hle⟩ := CodeShift.target_le_of_find? hn
      have hbeyond := Nat.lt_of_lt_of_le (target_lowercaseShifts s hs) hle
      rcases toNat_ofNat n with hcode | hcode
      · refine Bool.eq_false_iff.2 fun hsep => ?_
        rcases separates_iff.1 hsep with heq | heq | heq <;> rw [← hcode, heq] at hbeyond <;>
          exact absurd hbeyond (by decide)
      · rw [hcode]
        decide
    · exact absurd (List.mem_singleton.1 h) hne

/-! ## Pieces -/

/-- What a character becomes if underscores do not count. -/
def letters (c : Char) : List Char :=
  if separates c then [] else if isUppercase c then lowercase c else [c]

theorem letters_ne_nil {c : Char} (h : separates c = false) : letters c ≠ [] := by
  unfold letters
  rw [h, if_neg Bool.false_ne_true]
  split
  · exact lowercase_ne_nil c
  · exact List.cons_ne_nil _ _

theorem separates_of_mem_letters {c d : Char} (h : d ∈ letters c) : separates d = false := by
  unfold letters at h
  split_ifs at h with hsep
  · exact absurd h List.not_mem_nil
  · by_cases hd : d = c
    · rw [hd]
      exact Bool.eq_false_iff.2 hsep
    · exact separates_of_mem_lowercase h hd
  · rw [List.mem_singleton.1 h]
    exact Bool.eq_false_iff.2 hsep

theorem underscore_not_mem_letters (c : Char) : '_' ∉ letters c := fun h =>
  absurd (separates_of_mem_letters h) (by decide)

/-- What is written for a character between these neighbours. -/
def piece (previous next : Option Char) (c : Char) : List Char :=
  if separates c then ['_']
  else if isUppercase c && beginsWord previous next then '_' :: letters c
  else letters c

/-- The pieces of the text that follows the character `previous`. -/
def pieces (previous : Option Char) : List Char → List (List Char)
  | [] => []
  | c :: rest => piece previous rest.head? c :: pieces (some c) rest

section Piece

variable {previous next last : Option Char} {c : Char}

theorem piece_ne_nil : piece previous next c ≠ [] := by
  unfold piece
  split_ifs with hsep
  · exact List.cons_ne_nil _ _
  · exact List.cons_ne_nil _ _
  · exact letters_ne_nil (Bool.eq_false_iff.2 hsep)

theorem getLast?_piece (h : separates c = false) :
    (piece previous next c).getLast? = (letters c).getLast? := by
  unfold piece
  rw [h, if_neg Bool.false_ne_true]
  split
  · rw [List.getLast?_cons, List.getLast?_eq_some_getLast (letters_ne_nil h)]
    rfl
  · rfl

theorem getLast?_piece_ne (h : separates c = false) :
    ∃ d, (piece previous next c).getLast? = some d ∧ d ≠ '_' := by
  rw [getLast?_piece h, List.getLast?_eq_some_getLast (letters_ne_nil h)]
  refine ⟨_, rfl, fun heq => underscore_not_mem_letters c ?_⟩
  rw [← heq]
  exact List.getLast_mem _

theorem filter_piece : (piece previous next c).filter (· ≠ '_') = letters c := by
  have hletters : (letters c).filter (· ≠ '_') = letters c :=
    List.filter_eq_self.2 fun d hd => decide_eq_true fun heq =>
      underscore_not_mem_letters c (heq ▸ hd)
  unfold piece
  split_ifs with hsep
  · rw [letters, if_pos hsep]
    rfl
  · rw [List.filter_cons_of_neg (by simp), hletters]
  · exact hletters

theorem separates_of_beginsWord {p : Char} (h : beginsWord (some p) next = true) :
    separates p = false := by
  refine Bool.eq_false_iff.2 fun hsep => ?_
  obtain ⟨hupper, hlower, hdigit⟩ := cased_of_separates hsep
  simp [beginsWord, hupper, hlower, hdigit] at h

/-- What the last written character is makes no difference if it is an underscore only after a
character that becomes one. -/
theorem written_eq (hlast : ∀ p ∈ previous, separates p = false → last ≠ some '_') :
    written previous next last c = piece previous next c := by
  have hguard : (beginsWord previous next && last != some '_') = beginsWord previous next := by
    cases hbegins : beginsWord previous next with
    | false => rfl
    | true =>
      -- Only a letter or a digit lets a word begin, and what is written for it ends otherwise.
      rcases previous with _ | p
      · exact absurd hbegins Bool.false_ne_true
      · simpa using hlast p rfl (separates_of_beginsWord hbegins)
  cases hsep : separates c with
  | true =>
    have hupper := (cased_of_separates hsep).1
    unfold written piece
    rw [hsep, hupper]
    rcases separates_iff.1 hsep with rfl | rfl | rfl <;> rfl
  | false =>
    have hdivider : isDivider c = false := (Bool.or_eq_false_iff.1 hsep).1
    unfold written piece letters
    rw [hguard, hdivider, hsep]
    cases isUppercase c <;> rfl

end Piece

theorem encode_eq : ∀ {l : List Char} {previous last : Option Char},
    (∀ p ∈ previous, separates p = false → last ≠ some '_') →
    encode previous last l = (pieces previous l).flatten
  | [], _, _, _ => rfl
  | c :: rest, previous, last, hlast => by
    have hnext : ∀ p ∈ some c, separates p = false →
        (piece previous rest.head? c).getLast?.or last ≠ some '_' := by
      intro p hp hsep
      obtain rfl := Option.mem_some_iff.1 hp
      obtain ⟨d, hd, hne⟩ : ∃ d, (piece previous rest.head? c).getLast? = some d ∧ d ≠ '_' :=
        getLast?_piece_ne hsep
      rw [hd]
      simpa using hne
    rw [← written_eq hlast] at hnext
    rw [encode, encode_eq hnext, written_eq hlast, pieces, List.flatten_cons]

theorem toList_snakeCase (s : String) :
    (snakeCase s).toList = (pieces none s.toList).flatten := by
  unfold snakeCase
  rw [String.toList_ofList, encode_eq fun p hp => absurd hp (Option.not_mem_none p)]

theorem map_filter_pieces : ∀ (l : List Char) (previous : Option Char),
    (pieces previous l).map (·.filter (· ≠ '_')) = l.map letters
  | [], _ => rfl
  | c :: rest, previous => by
    rw [pieces, List.map_cons, filter_piece, map_filter_pieces rest, List.map_cons]

theorem filter_take_pieces (l : List Char) (previous : Option Char) (i : ℕ) :
    ((pieces previous l).take i).flatten.filter (· ≠ '_') = (l.take i).flatMap letters := by
  rw [List.filter_flatten, List.map_take, map_filter_pieces, ← List.map_take, List.flatMap_def]

theorem filter_pieces (l : List Char) (previous : Option Char) :
    (pieces previous l).flatten.filter (· ≠ '_') = l.flatMap letters := by
  rw [List.filter_flatten, map_filter_pieces, List.flatMap_def]

/-! ## Places -/

section Place

variable {α : Type} {P : List (List α)} {i j k : ℕ} {w : List α}

/-- Where the piece with an index begins among all pieces. -/
def place (P : List (List α)) (i : ℕ) : ℕ := (P.take i).flatten.length

theorem flatten_split (P : List (List α)) (i : ℕ) :
    P.flatten = (P.take i).flatten ++ (P.drop i).flatten := by
  rw [← List.flatten_append, List.take_append_drop]

theorem take_place (P : List (List α)) (i : ℕ) : P.flatten.take (place P i) = (P.take i).flatten := by
  unfold place
  rw [flatten_split P i, List.take_left]

theorem drop_place (P : List (List α)) (i : ℕ) : P.flatten.drop (place P i) = (P.drop i).flatten := by
  unfold place
  rw [flatten_split P i, List.drop_left]

theorem drop_place_of_getElem? (h : P[i]? = some w) :
    P.flatten.drop (place P i) = w ++ (P.drop (i + 1)).flatten := by
  obtain ⟨hi, hw⟩ := List.getElem?_eq_some_iff.1 h
  rw [drop_place, List.drop_eq_getElem_cons hi, hw, List.flatten_cons]

theorem getElem?_place (h : P[i]? = some w) (hk : k < w.length) :
    P.flatten[place P i + k]? = w[k]? := by
  rw [← List.getElem?_drop, drop_place_of_getElem? h, List.getElem?_append_left hk]

theorem place_succ (h : P[i]? = some w) : place P (i + 1) = place P i + w.length := by
  unfold place
  rw [List.take_add_one, h, Option.toList_some, List.flatten_append, List.flatten_singleton,
    List.length_append]

theorem place_lt (hne : ∀ w ∈ P, w ≠ []) : ∀ {j}, i < j → j ≤ P.length → place P i < place P j
  | j + 1, hij, hj => by
    have hsucc := place_succ (List.getElem?_eq_getElem hj)
    have hpos := List.length_pos_iff.2 (hne _ (List.getElem_mem hj))
    rcases Nat.lt_succ_iff_lt_or_eq.1 hij with hlt | rfl
    · have := place_lt hne hlt (Nat.le_of_lt hj)
      omega
    · omega

theorem exists_place {a : α} : ∀ {P : List (List α)} {j : ℕ}, P.flatten[j]? = some a →
    ∃ i k w, P[i]? = some w ∧ w[k]? = some a ∧ j = place P i + k
  | [], j, h => by simp at h
  | w :: P, j, h => by
    rw [List.flatten_cons] at h
    by_cases hj : j < w.length
    · rw [List.getElem?_append_left hj] at h
      exact ⟨0, j, w, rfl, h, (Nat.zero_add j).symm⟩
    · rw [List.getElem?_append_right (Nat.not_lt.1 hj)] at h
      obtain ⟨i, k, w', hw', ha, heq⟩ := exists_place h
      refine ⟨i + 1, k, w', hw', ha, ?_⟩
      simp only [place, List.take_succ_cons, List.flatten_cons, List.length_append] at heq ⊢
      omega

end Place

/-- A word begins with the capital at index `i`: a lowercase letter or a digit stands before it, or
another capital while a lowercase letter follows. -/
def BeginsWordAt (name : List Char) (i : ℕ) : Prop :=
  ∃ p c, 1 ≤ i ∧ name[i - 1]? = some p ∧ name[i]? = some c ∧ isUppercase c = true
    ∧ (isLowercase p = true ∨ isDigit p = true
      ∨ isUppercase p = true ∧ ∃ n, name[i + 1]? = some n ∧ isLowercase n = true)

section Pieces

variable {name : List Char} {i : ℕ} {c : Char}

theorem getElem?_pieces : ∀ (l : List Char) (previous : Option Char) (i : ℕ),
    (pieces previous l)[i]?
      = l[i]?.map (piece (if i = 0 then previous else l[i - 1]?) l[i + 1]?)
  | [], _, _ => by simp [pieces]
  | c :: rest, previous, 0 => by simp [pieces, List.head?_eq_getElem?]
  | c :: rest, previous, i + 1 => by
    rw [pieces, List.getElem?_cons_succ, getElem?_pieces rest (some c) i]
    cases i <;> simp

theorem length_pieces : ∀ (l : List Char) (previous : Option Char),
    (pieces previous l).length = l.length
  | [], _ => rfl
  | c :: rest, _ => congrArg (· + 1) (length_pieces rest (some c))

theorem pieces_ne_nil : ∀ (l : List Char) (previous : Option Char),
    ∀ w ∈ pieces previous l, w ≠ []
  | [], _, w, hw => absurd hw List.not_mem_nil
  | c :: rest, previous, w, hw => by
    rcases List.mem_cons.1 hw with rfl | hw
    · exact piece_ne_nil
    · exact pieces_ne_nil rest (some c) w hw

theorem pieces_separator (hc : name[i]? = some c) (hsep : separates c = true) :
    (pieces none name)[i]? = some ['_'] := by
  rw [getElem?_pieces, hc, Option.map_some, piece, if_pos hsep]

theorem beginsWordAt_iff (hc : name[i]? = some c) : BeginsWordAt name i
    ↔ isUppercase c = true
      ∧ beginsWord (if i = 0 then none else name[i - 1]?) name[i + 1]? = true := by
  rcases i with _ | i
  · simp [BeginsWordAt, beginsWord]
  · have hlt : i < name.length := Nat.lt_of_succ_lt (List.getElem?_eq_some_iff.1 hc).1
    have hp := List.getElem?_eq_getElem hlt
    simp [BeginsWordAt, beginsWord, hp, hc, or_assoc, Option.any_eq_true]

theorem BeginsWordAt.before (h : BeginsWordAt name i) :
    ∃ i' p, i = i' + 1 ∧ name[i']? = some p ∧ separates p = false := by
  obtain ⟨p, c, hi, hp, hc, -⟩ := id h
  obtain ⟨i, rfl⟩ := Nat.exists_eq_add_of_le' hi
  have hbegins := ((beginsWordAt_iff hc).1 h).2
  rw [if_neg (Nat.succ_ne_zero i), hp] at hbegins
  exact ⟨i, p, rfl, hp, separates_of_beginsWord hbegins⟩

theorem pieces_beginsWord (h : BeginsWordAt name i) : ∃ c, name[i]? = some c
    ∧ letters c = lowercase c ∧ (pieces none name)[i]? = some ('_' :: letters c) := by
  obtain ⟨p, c, -, -, hc, hupper, -⟩ := id h
  have hsep : separates c = false := Bool.eq_false_iff.2 fun hsep => by
    simp [(cased_of_separates hsep).1] at hupper
  have hbegins := ((beginsWordAt_iff hc).1 h).2
  refine ⟨c, hc, ?_, ?_⟩
  · rw [letters, hsep, hupper]
    rfl
  · rw [getElem?_pieces, hc, Option.map_some, piece, hsep, hupper, hbegins]
    rfl

theorem pieces_other (hc : name[i]? = some c) (hsep : separates c = false)
    (h : ¬ BeginsWordAt name i) : (pieces none name)[i]? = some (letters c) := by
  rw [beginsWordAt_iff hc, ← Bool.and_eq_true, Bool.not_eq_true] at h
  rw [getElem?_pieces, hc, Option.map_some, piece, hsep, h]
  rfl

/-- Before what follows a character that becomes no underscore stands none. -/
theorem getElem?_before (hc : name[i]? = some c) (hsep : separates c = false) :
    1 ≤ place (pieces none name) (i + 1)
      ∧ (pieces none name).flatten[place (pieces none name) (i + 1) - 1]? ≠ some '_' := by
  obtain ⟨w, hw, hlast⟩ : ∃ w, (pieces none name)[i]? = some w
      ∧ ∃ d, w.getLast? = some d ∧ d ≠ '_' := by
    rw [getElem?_pieces, hc]
    exact ⟨_, rfl, getLast?_piece_ne hsep⟩
  obtain ⟨d, hd, hne⟩ := hlast
  have hpos : 0 < w.length := List.length_pos_iff.2 (pieces_ne_nil _ _ w (List.mem_of_getElem? hw))
  rw [place_succ hw, Nat.add_sub_assoc hpos, getElem?_place hw (Nat.sub_lt hpos Nat.one_pos),
    ← List.getLast?_eq_getElem?, hd]
  exact ⟨by omega, by simpa using hne⟩

/-- An underscore begins a piece, the piece of a divider or one that begins a word. -/
theorem exists_of_underscore {j : ℕ} (h : (pieces none name).flatten[j]? = some '_') :
    ∃ i, place (pieces none name) i = j
      ∧ (BeginsWordAt name i ∨ ∃ c, name[i]? = some c ∧ separates c = true) := by
  obtain ⟨i, k, w, hw, hk, rfl⟩ := exists_place h
  have hi := (List.getElem?_eq_some_iff.1 hw).1
  rw [length_pieces] at hi
  have hc := List.getElem?_eq_getElem hi
  refine ⟨i, ?_⟩
  by_cases hbegins : BeginsWordAt name i
  · obtain ⟨c, -, -, hpiece⟩ := pieces_beginsWord hbegins
    obtain rfl := Option.some.inj (hw.symm.trans hpiece)
    rcases k with _ | k
    · exact ⟨rfl, .inl hbegins⟩
    · rw [List.getElem?_cons_succ] at hk
      exact absurd (List.mem_of_getElem? hk) (underscore_not_mem_letters _)
  · cases hsep : separates name[i] with
    | true =>
      obtain rfl := Option.some.inj (hw.symm.trans (pieces_separator hc hsep))
      obtain rfl : k = 0 := by simpa using (List.getElem?_eq_some_iff.1 hk).1
      exact ⟨rfl, .inr ⟨_, hc, hsep⟩⟩
    | false =>
      obtain rfl := Option.some.inj (hw.symm.trans (pieces_other hc hsep hbegins))
      exact absurd (List.mem_of_getElem? hk) (underscore_not_mem_letters _)

end Pieces

/-- Where the underscores of `out` come from, if what is written for the character of `name` at index
`i` begins at `start i`, behind what is written for those before it. -/
structure Underscored (name out : List Char) (start : ℕ → ℕ) : Prop where
  ordered : ∀ i j, i < j → j < name.length → start i < start j
  behind : ∀ i, (out.take (start i)).filter (· ≠ '_') = (name.take i).flatMap letters
  divider : ∀ i c, name[i]? = some c → separates c = true → out[start i]? = some '_'
  /-- The underscore before a word is neither the first character nor next to another one, and the
  lowercase form of the capital follows it. -/
  word : ∀ i, BeginsWordAt name i → out[start i]? = some '_' ∧ 1 ≤ start i
    ∧ out[start i - 1]? ≠ some '_' ∧ out[start i + 1]? ≠ some '_'
    ∧ ∃ c, name[i]? = some c ∧ lowercase c <+: out.drop (start i + 1)
  only : ∀ j, out[j]? = some '_' → ∃ i, start i = j
    ∧ (BeginsWordAt name i ∨ ∃ c, name[i]? = some c ∧ separates c = true)

theorem underscored_pieces (name : List Char) :
    Underscored name (pieces none name).flatten (place (pieces none name)) where
  ordered i j hij hj :=
    place_lt (pieces_ne_nil name none) hij (Nat.le_of_lt ((length_pieces name none).symm ▸ hj))
  behind i := by rw [take_place, filter_take_pieces]
  divider i c hc hsep := getElem?_place (pieces_separator hc hsep) Nat.one_pos
  word i h := by
    obtain ⟨c, hc, hlower, hpiece⟩ := pieces_beginsWord h
    have hdrop := drop_place_of_getElem? hpiece
    have hfollows : (pieces none name).flatten.drop (place (pieces none name) i + 1)
        = letters c ++ ((pieces none name).drop (i + 1)).flatten := by
      rw [← List.drop_drop, hdrop]
      rfl
    have hfirst : (pieces none name).flatten[place (pieces none name) i]? = some '_' :=
      getElem?_place hpiece (Nat.succ_pos _)
    have hnext : (pieces none name).flatten[place (pieces none name) i + 1]? ≠ some '_' := by
      intro heq
      have hne : letters c ≠ [] := hlower ▸ lowercase_ne_nil c
      rw [getElem?_place hpiece (Nat.succ_lt_succ (List.length_pos_iff.2 hne))] at heq
      exact underscore_not_mem_letters c (List.mem_of_getElem? heq)
    obtain ⟨i, p, rfl, hp, hsep⟩ := h.before
    obtain ⟨hpos, hbefore⟩ := getElem?_before hp hsep
    exact ⟨hfirst, hpos, hbefore, hnext, c, hc, hlower ▸ hfollows ▸ List.prefix_append _ _⟩
  only j h := exists_of_underscore h

/-! ## Texts that stay as they are -/

theorem encode_plain : ∀ {l : List Char} {previous last : Option Char},
    (∀ c ∈ l, isUppercase c = false ∧ isDivider c = false) → encode previous last l = l
  | [], _, _, _ => rfl
  | c :: rest, previous, last, h => by
    obtain ⟨⟨hupper, hdivider⟩, hrest⟩ := List.forall_mem_cons.1 h
    have hwritten : written previous rest.head? last c = [c] := by
      rw [written, hupper, hdivider]
      rfl
    rw [encode, hwritten, encode_plain hrest]
    rfl

/-- Whether every capital has a lowercase form. -/
def Lowerable (l : List Char) : Prop :=
  ∀ c ∈ l, isUppercase c = true → ∀ d ∈ lowercase c, isUppercase d = false

instance : DecidablePred Lowerable := fun l =>
  decidable_of_iff
    ((l.all fun c => !isUppercase c || (lowercase c).all fun d => !isUppercase d) = true)
    (by simp [Lowerable, List.all_eq_true, or_iff_not_imp_left])

theorem lowerable_ascii {l : List Char} (h : ∀ c ∈ l, c.toNat < 128) : Lowerable l := by
  have hall : ∀ n < 128, Lowerable [Char.ofNat n] := by decide +kernel
  intro c hc hupper d hd
  have hone := hall c.toNat (h c hc)
  rw [Char.ofNat_toNat] at hone
  exact hone c List.mem_cons_self hupper d hd

theorem mem_piece {previous next : Option Char} {c d : Char} (h : d ∈ piece previous next c) :
    d = '_' ∨ d ∈ letters c := by
  unfold piece at h
  split_ifs at h
  · exact .inl (List.mem_singleton.1 h)
  · exact List.mem_cons.1 h
  · exact .inr h

theorem mem_pieces {d : Char} : ∀ {l : List Char} {previous : Option Char},
    d ∈ (pieces previous l).flatten → d = '_' ∨ ∃ c ∈ l, d ∈ letters c
  | c :: rest, previous, h => by
    rw [pieces, List.flatten_cons, List.mem_append] at h
    rcases h with h | h
    · exact (mem_piece h).imp_right fun h => ⟨c, List.mem_cons_self, h⟩
    · exact (mem_pieces h).imp_right fun ⟨c, hc, hd⟩ => ⟨c, List.mem_cons_of_mem _ hc, hd⟩

theorem plain_snakeCase {s : String} (h : Lowerable s.toList) :
    ∀ d ∈ (snakeCase s).toList, isUppercase d = false ∧ isDivider d = false := by
  intro d hd
  rw [toList_snakeCase] at hd
  rcases mem_pieces hd with rfl | ⟨c, hc, hd⟩
  · decide +kernel
  · refine ⟨?_, (Bool.or_eq_false_iff.1 (separates_of_mem_letters hd)).1⟩
    unfold letters at hd
    split_ifs at hd with _ hupper
    · exact absurd hd List.not_mem_nil
    · exact h c hc hupper d hd
    · rw [List.mem_singleton.1 hd]
      exact Bool.eq_false_iff.2 hupper

end SnakeCase

open SnakeCase

/-- Nothing but dividers and capitals is lost in snake case, each underscore stands for a divider or
before a word, and a snake case is its own. -/
theorem snakeCase_loses_nothing (s : String) :
    (snakeCase s).toList.filter (· ≠ '_') = s.toList.flatMap letters
      ∧ (∃ start, Underscored s.toList (snakeCase s).toList start)
      ∧ (Lowerable s.toList → snakeCase (snakeCase s) = snakeCase s
        ∧ ∀ d ∈ (snakeCase s).toList, isUppercase d = false ∧ d ≠ '-' ∧ d ≠ ' ')
      ∧ ((∀ c ∈ s.toList, c.toNat < 128) → Lowerable s.toList) := by
  refine ⟨?_, ?_, fun h => ⟨?_, fun d hd => ?_⟩, lowerable_ascii⟩
  · rw [toList_snakeCase, filter_pieces]
  · rw [toList_snakeCase]
    exact ⟨_, underscored_pieces _⟩
  · conv_lhs => rw [snakeCase, encode_plain (plain_snakeCase h), String.ofList_toList]
  · obtain ⟨hupper, hdivider⟩ := plain_snakeCase h d hd
    refine ⟨hupper, ?_, ?_⟩ <;> rintro rfl <;> exact absurd hdivider (by decide)

/-- A name with an acronym, every kind of divider and a capital beyond ASCII. -/
theorem snakeCase_loses_nothing_mixed :
    snakeCase "HTTPRequest-Sent V2_okÉt" = "http_request_sent_v2_ok_ét"
      ∧ snakeCase "http_request_sent_v2_ok_ét" = "http_request_sent_v2_ok_ét" := by
  have hvalue : snakeCase "HTTPRequest-Sent V2_okÉt" = "http_request_sent_v2_ok_ét" := by
    decide +kernel
  have hlowerable : Lowerable "HTTPRequest-Sent V2_okÉt".toList := by decide +kernel
  obtain ⟨-, -, hstable, -⟩ := snakeCase_loses_nothing "HTTPRequest-Sent V2_okÉt"
  have hsame := (hstable hlowerable).1
  rw [hvalue] at hsame
  exact ⟨hvalue, hsame⟩

end ConfirmedDelivery.Text
