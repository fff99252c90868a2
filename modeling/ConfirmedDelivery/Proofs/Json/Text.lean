import ConfirmedDelivery.Json.Record
import Mathlib.Data.List.Basic

/-!
# Strings in JSON texts

A character is written as itself, by a letter after a backslash, or by one or two hexadecimal units
(`Spelling`). However the characters of a string are written, the string is read from them
(`textRest_of_spells`), and what `textChars` writes is one way of writing it (`textRest_textChars`).
-/

namespace ConfirmedDelivery.Json

/-- Four hexadecimal digits and their value. -/
inductive IsUnit : List Char → ℕ → Prop
  | mk {a b c d : Char} {i j k l : ℕ} (ha : hexDigit? a = some i) (hb : hexDigit? b = some j)
      (hc : hexDigit? c = some k) (hd : hexDigit? d = some l) :
      IsUnit [a, b, c, d] (16 * (16 * (16 * i + j) + k) + l)

/-- The letters after a backslash and what they stand for. -/
def letters : List (Char × Char) :=
  [('\"', '\"'), ('\\', '\\'), ('/', '/'), ('b', '\x08'), ('f', '\x0c'), ('n', '\n'), ('r', '\r'),
    ('t', '\t')]

/-- The ways to write a character within a string. -/
inductive Spelling : Char → List Char → Prop
  | plain {c : Char} (hquote : c ≠ '\"') (hslash : c ≠ '\\') (hcontrol : ¬ c < ' ') :
      Spelling c [c]
  | letter {e c : Char} (h : (e, c) ∈ letters) : Spelling c ['\\', e]
  | unit {u : List Char} {n : ℕ} (hu : IsUnit u n) (hhigh : isHighSurrogate n = false)
      (hlow : isLowSurrogate n = false) : Spelling (Char.ofNat n) ('\\' :: 'u' :: u)
  | pair {u v : List Char} {m n : ℕ} (hu : IsUnit u m) (hv : IsUnit v n)
      (hhigh : isHighSurrogate m = true) (hlow : isLowSurrogate n = true) :
      Spelling (Char.ofNat (0x10000 + (m - 0xD800) * 0x400 + (n - 0xDC00)))
        ('\\' :: 'u' :: (u ++ '\\' :: 'u' :: v))

/-- The ways to write the characters of a string. -/
inductive Spells : List Char → List Char → Prop
  | nil : Spells [] []
  | cons {c : Char} {u cs s : List Char} (hc : Spelling c u) (hcs : Spells cs s) :
      Spells (c :: cs) (u ++ s)

theorem foldl_utf8Size (s : List Char) (n : ℕ) :
    n + s.length ≤ s.foldl (fun n c => n + c.utf8Size) n := by
  induction s generalizing n with
  | nil => exact Nat.le_refl _
  | cons c s ih =>
    have hc := c.utf8Size_pos
    have := ih (n + c.utf8Size)
    rw [List.foldl_cons, List.length_cons]
    omega

theorem hexUnit_append {u rest : List Char} {n : ℕ} (h : IsUnit u n) :
    hexUnit (u ++ rest) = .ok (n, rest) := by
  cases h with
  | @mk a b c d i j k l ha hb hc hd =>
    have hlength := foldl_utf8Size ([a, b, c, d] ++ rest) 0
    have hdigits : (([a, b, c, d] ++ rest).take 4).mapM hexDigit? = some [i, j, k, l] := by
      simp [ha, hb, hc, hd]
    unfold hexUnit byteLength
    rw [List.length_append, show [a, b, c, d].length = 4 from rfl] at hlength
    rw [if_neg (by omega), hdigits]
    change Except.ok (16 * (16 * (16 * (16 * 0 + i) + j) + k) + l, rest) = _
    rw [Nat.mul_zero, Nat.zero_add]

variable {rest : List Char} {c : Char} {u : List Char}

theorem unescape_letter {e : Char} (h : (e, c) ∈ letters) :
    unescape (e :: rest) = .ok (c, rest) := by
  simp only [letters, List.mem_cons, Prod.mk.injEq, List.not_mem_nil, or_false] at h
  rcases h with ⟨rfl, rfl⟩ | ⟨rfl, rfl⟩ | ⟨rfl, rfl⟩ | ⟨rfl, rfl⟩ | ⟨rfl, rfl⟩ | ⟨rfl, rfl⟩
    | ⟨rfl, rfl⟩ | ⟨rfl, rfl⟩ <;> rfl

theorem textBody_escape {s : List Char} (h : unescape s = .ok (c, rest)) (fuel : ℕ) :
    textBody (fuel + 1) ('\\' :: s) = (textBody fuel rest).map fun r => (c :: r.1, r.2) := by
  change (unescape s).bind _ = _
  rw [h]
  change (textBody fuel rest).bind _ = _
  cases textBody fuel rest <;> rfl

theorem textBody_spelling (h : Spelling c u) (fuel : ℕ) :
    textBody (fuel + 1) (u ++ rest) = (textBody fuel rest).map fun r => (c :: r.1, r.2) := by
  cases h with
  | plain hquote hslash hcontrol =>
    rw [List.cons_append, List.nil_append, textBody, if_neg hquote, if_neg hslash, if_neg hcontrol]
    cases textBody fuel rest <;> rfl
  | letter he => exact textBody_escape (unescape_letter he) fuel
  | @unit u n hu hhigh hlow =>
    refine textBody_escape (s := 'u' :: (u ++ rest)) ?_ fuel
    change (hexUnit (u ++ rest)).bind _ = _
    rw [hexUnit_append hu]
    change (if isLowSurrogate n then _ else if isHighSurrogate n then _ else _) = _
    rw [hlow, hhigh]
    rfl
  | @pair u v m n hu hv hhigh hlow =>
    rw [List.cons_append, List.cons_append, List.append_assoc]
    refine textBody_escape (s := 'u' :: _) ?_ fuel
    have hnot : isLowSurrogate m = false := by
      unfold isHighSurrogate isLowSurrogate at *
      rw [decide_eq_true_eq] at hhigh
      rw [decide_eq_false_iff_not]
      omega
    change (hexUnit (u ++ _)).bind _ = _
    rw [hexUnit_append hu]
    change (if isLowSurrogate m then _ else if isHighSurrogate m then surrogate m _ else _) = _
    rw [hnot, hhigh]
    change (hexUnit (v ++ rest)).bind _ = _
    rw [hexUnit_append hv]
    change (if isLowSurrogate n then _ else _) = _
    rw [hlow]
    rfl

theorem textBody_spells {cs s : List Char} (h : Spells cs s) : ∀ {fuel : ℕ}, cs.length < fuel →
    textBody fuel (s ++ '\"' :: rest) = .ok (cs, rest) := by
  induction h with
  | nil =>
    rintro (_ | fuel) hfuel
    · cases hfuel
    · rfl
  | @cons c u cs s hc hcs ih =>
    rintro (_ | fuel) hfuel
    · cases hfuel
    · rw [List.append_assoc, textBody_spelling hc, ih (Nat.lt_of_succ_lt_succ hfuel)]
      rfl

theorem Spelling.length_pos (h : Spelling c u) : 0 < u.length := by
  cases h <;> exact Nat.succ_pos _

theorem Spells.length_le {cs s : List Char} (h : Spells cs s) : cs.length ≤ s.length := by
  induction h with
  | nil => exact Nat.le_refl _
  | cons hc _ ih =>
    have := hc.length_pos
    rw [List.length_cons, List.length_append]
    omega

/-- A string is read from any way to write it. -/
theorem textRest_spells {name : String} {s : List Char} (h : Spells name.toList s) :
    textRest (s ++ '\"' :: rest) = .ok (name, rest) := by
  unfold textRest
  have hlength := h.length_le
  rw [textBody_spells h (by rw [List.length_append]; omega)]
  change Except.ok (String.ofList name.toList, rest) = _
  rw [String.ofList_toList]

/-! ## Written strings -/

theorem paddedHex_four {n : ℕ} (h : n < 256) :
    (Text.paddedHex 4 n).toList = ['0', '0', (n / 16).digitChar, (n % 16).digitChar] := by
  unfold Text.paddedHex
  rw [String.toList_ofList]
  by_cases hlt : n < 16
  · rw [Nat.toDigits_of_lt_base hlt, Nat.div_eq_of_lt hlt, Nat.mod_eq_of_lt hlt]
    rfl
  · rw [Nat.toDigits_of_base_le (by decide) (Nat.le_of_not_lt hlt),
      Nat.toDigits_of_lt_base (by omega)]
    rfl

theorem hexDigit?_digitChar : ∀ d < 16, hexDigit? (Nat.digitChar d) = some d := by decide

theorem isUnit_paddedHex {n : ℕ} (h : n < 256) : IsUnit (Text.paddedHex 4 n).toList n := by
  have hunit := IsUnit.mk (a := '0') (b := '0') (i := 0) (j := 0) rfl rfl
    (hexDigit?_digitChar (n / 16) (by omega)) (hexDigit?_digitChar (n % 16) (by omega))
  rw [show 16 * (16 * (16 * 0 + 0) + n / 16) + n % 16 = n by omega] at hunit
  rwa [paddedHex_four h]

theorem spelling_escape (c : Char) : Spelling c (escape c) := by
  unfold escape
  split_ifs with h1 h2 h3 h4 h5 h6 h7 h8
  · exact .letter (by simp [letters, h1])
  · exact .letter (by simp [letters, h2])
  · exact .letter (by simp [letters, h3])
  · exact .letter (by simp [letters, h4])
  · exact .letter (by simp [letters, h5])
  · exact .letter (by simp [letters, h6])
  · exact .letter (by simp [letters, h7])
  · have hlt : c.toNat < 32 := h8
    have hunit := Spelling.unit (isUnit_paddedHex (n := c.toNat) (by omega))
      (decide_eq_false (by omega)) (decide_eq_false (by omega))
    rwa [Char.ofNat_toNat] at hunit
  · exact .plain h1 h2 h8

theorem spells_escape : ∀ cs : List Char, Spells cs (cs.flatMap escape)
  | [] => .nil
  | c :: cs => by
    rw [List.flatMap_cons]
    exact .cons (spelling_escape c) (spells_escape cs)

/-- A written string is read as that string. -/
theorem textRest_textChars (s : String) : ∃ t, textChars s = '\"' :: t
    ∧ ∀ rest, textRest (t ++ rest) = .ok (s, rest) := by
  refine ⟨_, rfl, fun rest => ?_⟩
  change textRest (s.toList.flatMap escape ++ ['\"'] ++ rest) = _
  rw [List.append_assoc]
  exact textRest_spells (spells_escape s.toList)

end ConfirmedDelivery.Json
