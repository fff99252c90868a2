import ConfirmedDelivery.Json.Record
import ConfirmedDelivery.Proofs.Number.Shortest
import Mathlib.Tactic.IntervalCases

/-!
# Numbers in JSON texts

A number is a whole part without needless zeros, decimal places or none, and a power of ten or none.
Where nothing follows that could go on with it, a reader takes it whole. The text written for a
finite number is read as that number (`number_realChars`), and the text of an integer of 64 bits as that
integer (`number_toString`).
-/

namespace ConfirmedDelivery.Json

/-! ## Digits -/

theorem digit?_of_isDigit {c : Char} (h : c.isDigit = true) :
    digit? c = some (c.toNat - '0'.toNat) :=
  if_pos (Char.isDigit_iff_toNat.1 h)

theorem digit?_of_not_isDigit {c : Char} (h : c.isDigit = false) : digit? c = none :=
  if_neg fun hc => Bool.false_ne_true (h.symm.trans (Char.isDigit_iff_toNat.2 hc))

/-- What stands after digits that end here. -/
def NoDigit : List Char → Prop
  | [] => True
  | c :: _ => c.isDigit = false

/-- What stands after a number that ends here. -/
def Ends : List Char → Prop
  | [] => True
  | c :: _ => c.isDigit = false ∧ c ≠ '.' ∧ c ≠ 'e' ∧ c ≠ 'E'

theorem Ends.noDigit : ∀ {s : List Char}, Ends s → NoDigit s
  | [], _ => trivial
  | _ :: _, h => h.1

theorem takeDigits_append {rest : List Char} (hrest : NoDigit rest) :
    ∀ {ds : List Char} (value count : ℕ), (∀ c ∈ ds, c.isDigit = true) →
      takeDigits value count (ds ++ rest)
        = (Nat.ofDigitChars 10 ds value, count + ds.length, rest)
  | [], value, count, _ => by
    rcases rest with _ | ⟨c, rest⟩
    · rfl
    · simp [takeDigits, digit?_of_not_isDigit (show c.isDigit = false from hrest)]
  | c :: ds, value, count, h => by
    have hc := digit?_of_isDigit (h c List.mem_cons_self)
    have hds : ∀ d ∈ ds, d.isDigit = true := fun d hd => h d (List.mem_cons_of_mem c hd)
    have ih := takeDigits_append hrest (10 * value + (c.toNat - '0'.toNat)) (count + 1) hds
    simp only [List.cons_append, takeDigits, hc, ih, Nat.ofDigitChars_cons, List.length_cons]
    rw [Nat.add_right_comm, Nat.add_assoc]

theorem le_ofDigitChars (ds : List Char) (n : ℕ) : n ≤ Nat.ofDigitChars 10 ds n := by
  rw [Nat.ofDigitChars_eq_ofDigitChars_zero]
  exact (Nat.le_mul_of_pos_left n (Nat.pow_pos (by decide))).trans (Nat.le_add_right _ _)

/-- A whole part: zero, or digits of which the first is none. -/
inductive IsWhole : List Char → Prop
  | zero : IsWhole ['0']
  | digits {c : Char} {ds : List Char} (hc : c.isDigit = true) (hne : c ≠ '0')
      (hds : ∀ d ∈ ds, d.isDigit = true) : IsWhole (c :: ds)

theorem toDigits_head {n : ℕ} (h : n ≠ 0) : ∃ c ds, Nat.toDigits 10 n = c :: ds ∧ c ≠ '0' := by
  induction n using Nat.strongRecOn with
  | ind n ih =>
    rcases Nat.lt_or_ge n 10 with hlt | hge
    · refine ⟨n.digitChar, [], Nat.toDigits_of_lt_base hlt, ?_⟩
      interval_cases n <;> first | exact absurd rfl h | decide
    · obtain ⟨c, ds, hds, hc⟩ := ih (n / 10) (by omega) (by omega)
      exact ⟨c, ds ++ [(n % 10).digitChar],
        by rw [Nat.toDigits_of_base_le (by decide) hge, hds, List.cons_append], hc⟩

theorem isDigit_of_mem {n : ℕ} : ∀ c ∈ Nat.toDigits 10 n, c.isDigit = true := fun _ hc =>
  Nat.isDigit_of_mem_toDigits (by decide) (by decide) hc

theorem isDigit_zeros {k : ℕ} : ∀ c ∈ List.replicate k '0', c.isDigit = true := fun c hc => by
  rw [List.eq_of_mem_replicate hc]
  rfl

theorem isWhole_append {n : ℕ} (h : n ≠ 0) {t : List Char} (ht : ∀ c ∈ t, c.isDigit = true) :
    IsWhole (Nat.toDigits 10 n ++ t) := by
  obtain ⟨c, ds, hds, hc⟩ := toDigits_head h
  have hmem := isDigit_of_mem (n := n)
  rw [hds] at hmem ⊢
  refine .digits (hmem c List.mem_cons_self) hc fun d hd => ?_
  exact (List.mem_append.1 hd).elim (fun hd => hmem d (List.mem_cons_of_mem c hd)) (ht d)

theorem isWhole_toDigits (n : ℕ) : IsWhole (Nat.toDigits 10 n) := by
  by_cases h : n = 0
  · rw [h, Nat.toDigits_zero]
    exact .zero
  · have hwhole := isWhole_append h (t := []) fun _ hc => absurd hc List.not_mem_nil
    rwa [List.append_nil] at hwhole

theorem isWhole_take {n k : ℕ} (h : n ≠ 0) (hk : 0 < k) :
    IsWhole ((Nat.toDigits 10 n).take k) := by
  obtain ⟨k, rfl⟩ := Nat.exists_eq_succ_of_ne_zero hk.ne'
  have hwhole := isWhole_toDigits n
  obtain ⟨c, ds, hds, hc⟩ := toDigits_head h
  rw [hds] at hwhole ⊢
  cases hwhole with
  | zero => exact absurd rfl hc
  | digits hdigit _ hrest => exact .digits hdigit hc fun d hd => hrest d (List.mem_of_mem_take hd)

theorem IsWhole.isDigit {w : List Char} : IsWhole w → ∀ c ∈ w, c.isDigit = true
  | .zero, c, hc => by
    obtain rfl := List.mem_singleton.1 hc
    rfl
  | .digits hc _ hds, d, hd => by
    rcases List.mem_cons.1 hd with rfl | hd
    · exact hc
    · exact hds d hd

theorem IsWhole.exists_cons {w : List Char} : IsWhole w → ∃ c ds, w = c :: ds ∧ c.isDigit = true
  | .zero => ⟨_, _, rfl, rfl⟩
  | .digits hc _ _ => ⟨_, _, rfl, hc⟩

theorem startsNumber_of_isDigit {c : Char} (h : c.isDigit = true) : startsNumber c = true := by
  unfold startsNumber
  rw [digit?_of_isDigit h, Option.isSome_some, Bool.or_true]

/-- Begins as a number does. -/
def BeginsNumber (v : List Char) : Prop := ∃ c cs, v = c :: cs ∧ startsNumber c = true

theorem IsWhole.beginsNumber {w : List Char} (hw : IsWhole w) (t : List Char) :
    BeginsNumber (w ++ t) := by
  obtain ⟨c, ds, rfl, hc⟩ := hw.exists_cons
  exact ⟨c, ds ++ t, rfl, startsNumber_of_isDigit hc⟩

/-! ## Readers -/

variable {negative : Bool} {n : ℕ} {w f rest : List Char} {d : Decimal}

theorem magnitude_whole (hw : IsWhole w) (hrest : NoDigit rest) :
    magnitude negative (w ++ rest) = afterWhole negative (Nat.ofDigitChars 10 w 0) rest := by
  have htake := takeDigits_append hrest 0 0 hw.isDigit
  cases hw with
  | zero =>
    have hnone : rest.head?.bind digit? = none := by
      rcases rest with _ | ⟨c, rest⟩
      · rfl
      · exact digit?_of_not_isDigit hrest
    simp only [List.cons_append, List.nil_append, magnitude, hnone]
    rfl
  | @digits c ds hc hne hds =>
    rw [List.cons_append] at htake ⊢
    unfold magnitude
    split
    · rename_i heq
      cases heq
    · rename_i heq
      cases heq
      exact absurd rfl hne
    · rename_i heq
      cases heq
      rw [digit?_of_isDigit hc, htake]

theorem skipMagnitude_whole (hw : IsWhole w) (hrest : NoDigit rest) :
    skipMagnitude (w ++ rest) = skipFraction rest := by
  have htake := takeDigits_append hrest 0 0 hw.isDigit
  cases hw with
  | zero =>
    have hnone : rest.head?.bind digit? = none := by
      rcases rest with _ | ⟨c, rest⟩
      · rfl
      · exact digit?_of_not_isDigit hrest
    simp only [List.cons_append, List.nil_append, skipMagnitude, hnone]
  | @digits c ds hc hne hds =>
    rw [List.cons_append] at htake ⊢
    unfold skipMagnitude
    split
    · rename_i heq
      cases heq
    · rename_i heq
      cases heq
      exact absurd rfl hne
    · rename_i heq
      cases heq
      rw [digit?_of_isDigit hc, htake]

theorem afterWhole_places (hf : ∀ c ∈ f, c.isDigit = true) (hne : f ≠ []) (hrest : NoDigit rest) :
    afterWhole negative n ('.' :: (f ++ rest))
      = afterDigits ⟨negative, Nat.ofDigitChars 10 f n, -(f.length : ℤ)⟩ rest := by
  obtain ⟨k, hk⟩ := Nat.exists_eq_succ_of_ne_zero (List.length_pos_iff.2 hne).ne'
  change places ⟨negative, n, 0⟩ (f ++ rest) = _
  unfold places
  dsimp only
  rw [takeDigits_append hrest n 0 hf, Nat.zero_add, hk]
  cases rest <;> rfl

/-- The decimal with a power of ten after it. -/
def shifted (d : Decimal) (negative : Bool) (n : ℕ) : Decimal :=
  { d with exponent := d.exponent + (if negative then -(n : ℤ) else n) }

theorem powerDigits_append (hrest : NoDigit rest) : ∀ {ds : List Char} {p : ℕ},
    (∀ c ∈ ds, c.isDigit = true) → Nat.ofDigitChars 10 ds p < twoPow 31 →
      powerDigits negative d p (ds ++ rest)
        = finish (shifted d negative (Nat.ofDigitChars 10 ds p)) rest
  | [], p, _, _ => by
    rcases rest with _ | ⟨c, rest⟩
    · rfl
    · simp only [List.nil_append, powerDigits, digit?_of_not_isDigit hrest, Nat.ofDigitChars_nil,
        shifted]
  | c :: ds, p, h, hlt => by
    rw [Nat.ofDigitChars_cons] at hlt ⊢
    have hle := le_ofDigitChars ds (10 * p + (c.toNat - '0'.toNat))
    rw [List.cons_append, powerDigits, digit?_of_isDigit (h c List.mem_cons_self)]
    dsimp only
    rw [if_neg (by omega)]
    exact powerDigits_append hrest (fun d hd => h d (List.mem_cons_of_mem c hd)) hlt

variable (negative d) in
theorem power_append (hrest : NoDigit rest) {ds : List Char} (hne : ds ≠ [])
    (h : ∀ c ∈ ds, c.isDigit = true) (hlt : Nat.ofDigitChars 10 ds 0 < twoPow 31) :
    power d ((if negative then '-' else '+') :: (ds ++ rest))
      = finish (shifted d negative (Nat.ofDigitChars 10 ds 0)) rest := by
  obtain ⟨c, ds, rfl⟩ := List.exists_cons_of_ne_nil hne
  have hpower : power d ((if negative then '-' else '+') :: (c :: ds ++ rest))
      = powerDigits negative d (c.toNat - '0'.toNat) (ds ++ rest) := by
    unfold power
    cases negative
    all_goals simp [digit?_of_isDigit (h c List.mem_cons_self)]
  rw [Nat.ofDigitChars_cons, Nat.mul_zero, Nat.zero_add] at hlt ⊢
  rw [hpower, powerDigits_append hrest (fun d hd => h d (List.mem_cons_of_mem c hd)) hlt]

theorem afterDigits_ends (hrest : Ends rest) : afterDigits d rest = finish d rest := by
  rcases rest with _ | ⟨c, rest⟩
  · rfl
  · obtain ⟨-, -, he, hE⟩ := hrest
    exact if_neg (not_or.2 ⟨he, hE⟩)

variable {x : Binary64}

theorem finish_eq (hx : x.isFinite = true) (h : d.toBinary64 = x) :
    finish d rest = .ok (.real x, rest) := by
  have hlt : x.magnitude < Binary64.infiniteMagnitude := of_decide_eq_true hx
  have hinf : x.isInfinite = false := beq_eq_false_iff_ne.2 hlt.ne
  unfold finish
  dsimp only
  rw [h, hinf]
  rfl

/-! ## Written numbers -/

-- between functions, so that no digits are computed
theorem write_eq : NumberStyle.write = fun s x =>
    if x.isNaN then s.nan
    else if x.isInfinite then if x.negative then s.negativeInfinite else s.infinite
    else
      let sign := if x.negative then "-" else ""
      if x.magnitude = 0 then sign ++ s.positional ['0'] 0
      else
        let (n, exponent) := Shortest.digits s.tie x
        let digits := Nat.toDigits 10 n
        let lead := exponent + digits.length - 1
        if s.least ≤ lead ∧ lead ≤ s.most then sign ++ s.positional digits exponent
        else sign ++ s.scientific digits lead := by
  delta NumberStyle.write
  rfl

/-- An unsigned text that is read as a number, whatever its sign is. -/
structure Writes (x : Binary64) (u : List Char) : Prop where
  starts : ∃ w t, u = w ++ t ∧ IsWhole w
  reads : ∀ rest, Ends rest → magnitude x.negative (u ++ rest) = .ok (.real x, rest)

theorem writes_places (hx : x.isFinite = true) (hw : IsWhole w) (hf : ∀ c ∈ f, c.isDigit = true)
    (hne : f ≠ [])
    (h : Decimal.toBinary64 ⟨x.negative, Nat.ofDigitChars 10 (w ++ f) 0, -(f.length : ℤ)⟩ = x) :
    Writes x (w ++ '.' :: f) where
  starts := ⟨w, _, rfl, hw⟩
  reads rest hrest := by
    rw [Nat.ofDigitChars_append] at h
    rw [List.append_assoc, List.cons_append, magnitude_whole hw (show NoDigit ('.' :: _) from rfl),
      afterWhole_places hf hne hrest.noDigit, afterDigits_ends hrest, finish_eq hx h]

theorem writes_zero (h : x.magnitude = 0) : Writes x ['0', '.', '0'] := by
  have hx : x.isFinite = true := decide_eq_true (h ▸ by decide)
  have hf : ∀ c ∈ ['0'], c.isDigit = true := List.forall_mem_singleton.2 (by decide)
  refine writes_places (w := ['0']) hx .zero hf (by decide) ?_
  rw [show Nat.ofDigitChars 10 (['0'] ++ ['0']) 0 = 0 from rfl]
  unfold Decimal.toBinary64 Decimal.roundWith
  rw [if_pos rfl, ← h, Binary64.ofMagnitude_magnitude]

theorem writes_power (hx : x.isFinite = true) (hw : IsWhole w) (hf : ∀ c ∈ f, c.isDigit = true)
    (sign : Bool) {ds : List Char} (hne : ds ≠ []) (hds : ∀ c ∈ ds, c.isDigit = true)
    (hlt : Nat.ofDigitChars 10 ds 0 < twoPow 31)
    (h : Decimal.toBinary64 (shifted ⟨x.negative, Nat.ofDigitChars 10 (w ++ f) 0, -(f.length : ℤ)⟩
      sign (Nat.ofDigitChars 10 ds 0)) = x) :
    Writes x (w ++ ((if f = [] then [] else '.' :: f)
      ++ 'e' :: (if sign then '-' else '+') :: ds)) where
  starts := ⟨w, _, rfl, hw⟩
  reads rest hrest := by
    have hpower := fun d => power_append sign d hrest.noDigit hne hds hlt
    rw [Nat.ofDigitChars_append] at h
    have he : ∀ s, NoDigit ('e' :: s) := fun _ => rfl
    generalize (if sign then '-' else '+') = mark at hpower ⊢
    by_cases hnil : f = []
    · subst hnil
      rw [if_pos rfl, List.append_assoc, List.nil_append, List.cons_append, List.cons_append,
        magnitude_whole hw (he _)]
      refine (hpower ⟨x.negative, _, 0⟩).trans ?_
      rw [finish_eq hx (by simpa using h)]
    · rw [if_neg hnil, List.append_assoc, List.append_assoc, List.cons_append, List.cons_append,
        List.cons_append, magnitude_whole hw (show NoDigit ('.' :: _) from rfl),
        afterWhole_places hf hnil (he _)]
      refine (hpower _).trans ?_
      rw [finish_eq hx h]

section Real

variable (hx : x.isFinite = true) (hzero : x.magnitude ≠ 0)

section Positional

variable {k : ℕ}

include hx hzero

/-- All digits, zeros after them, and then the point. -/
theorem writes_above (h : x.Takes (Decimal.absolute ⟨x.negative, n, (k : ℤ)⟩)) :
    Writes x (Nat.toDigits 10 n ++ List.replicate k '0' ++ ['.', '0']) := by
  have hw := isWhole_append (Decimal.digits_ne_zero_of_takes hx hzero h) (isDigit_zeros (k := k))
  have hf : ∀ c ∈ ['0'], c.isDigit = true := List.forall_mem_singleton.2 (by decide)
  refine writes_places hx hw hf (by decide) ?_
  have hdigits : Nat.ofDigitChars 10 (Nat.toDigits 10 n ++ List.replicate k '0' ++ ['0']) 0
      = 10 * (10 ^ k * n) := by
    rw [Nat.ofDigitChars_append, Nat.ofDigitChars_append, Nat.ofDigitChars_ten_toDigits,
      Nat.ofDigitChars_replicate_zero]
    rfl
  have hsame : Decimal.absolute ⟨x.negative, 10 * (10 ^ k * n), -1⟩
      = Decimal.absolute ⟨x.negative, n, (k : ℤ)⟩ := by
    unfold Decimal.absolute
    push_cast
    rw [zpow_natCast, zpow_neg_one]
    ring
  rw [hdigits]
  exact Decimal.toBinary64_of_takes hx hzero (hsame.symm ▸ h) rfl

/-- The point among the digits. -/
theorem writes_amid (hpos : 0 < k) (hlt : k < (Nat.toDigits 10 n).length)
    (h : x.Takes (Decimal.absolute ⟨x.negative, n, -(k : ℤ)⟩)) :
    Writes x ((Nat.toDigits 10 n).take ((Nat.toDigits 10 n).length - k)
      ++ '.' :: (Nat.toDigits 10 n).drop ((Nat.toDigits 10 n).length - k)) := by
  have hlength : ((Nat.toDigits 10 n).drop ((Nat.toDigits 10 n).length - k)).length = k := by
    rw [List.length_drop]
    omega
  have hw := isWhole_take (Decimal.digits_ne_zero_of_takes hx hzero h) (Nat.sub_pos_of_lt hlt)
  refine writes_places hx hw (fun d hd => isDigit_of_mem d (List.mem_of_mem_drop hd)) ?_ ?_
  · exact List.ne_nil_of_length_pos (hlength.symm ▸ hpos)
  · rw [List.take_append_drop, hlength, Nat.ofDigitChars_ten_toDigits]
    exact Decimal.toBinary64_of_takes hx hzero h rfl

/-- The point, and zeros after it, before all digits. -/
theorem writes_below (hle : (Nat.toDigits 10 n).length ≤ k)
    (h : x.Takes (Decimal.absolute ⟨x.negative, n, -(k : ℤ)⟩)) :
    Writes x ('0' :: '.' :: (List.replicate (k - (Nat.toDigits 10 n).length) '0'
      ++ Nat.toDigits 10 n)) := by
  have hlength : (List.replicate (k - (Nat.toDigits 10 n).length) '0'
      ++ Nat.toDigits 10 n).length = k := by
    rw [List.length_append, List.length_replicate]
    omega
  have hdigits : Nat.ofDigitChars 10 (['0'] ++ (List.replicate (k - (Nat.toDigits 10 n).length) '0'
      ++ Nat.toDigits 10 n)) 0 = n := by
    rw [Nat.ofDigitChars_append, Nat.ofDigitChars_append, Nat.ofDigitChars_replicate_zero,
      show Nat.ofDigitChars 10 ['0'] 0 = 0 from rfl, Nat.mul_zero, Nat.ofDigitChars_ten_toDigits]
  refine writes_places hx .zero (fun d hd => ?_) ?_ ?_
  · exact (List.mem_append.1 hd).elim (isDigit_zeros d) (isDigit_of_mem d)
  · exact List.append_ne_nil_of_right_ne_nil _ Nat.toDigits_ne_nil
  · rw [hdigits, hlength]
    exact Decimal.toBinary64_of_takes hx hzero h rfl

end Positional

variable {e : ℤ} (h : x.Takes (Decimal.absolute ⟨x.negative, n, e⟩))

include hx hzero h

theorem writes_positional :
    Writes x (NumberStyle.json.positional (Nat.toDigits 10 n) e).toList := by
  have hfraction : NumberStyle.json.fraction = true := rfl
  unfold NumberStyle.positional
  rw [if_pos hfraction]
  dsimp only
  by_cases he : 0 ≤ e
  · obtain ⟨k, rfl⟩ := Int.eq_ofNat_of_zero_le he
    rw [if_pos he]
    simpa [NumberStyle.zeros, String.toList_append] using writes_above hx hzero h
  · obtain ⟨k, rfl⟩ : ∃ k : ℕ, e = -(k : ℤ) := ⟨(-e).toNat, by omega⟩
    have hk : (-(-(k : ℤ))).toNat = k := by omega
    rw [if_neg he, hk]
    split_ifs with hplaces
    · have hwrites := writes_amid hx hzero (by omega) hplaces h
      simpa [String.toList_append] using hwrites
    · have hwrites := writes_below hx hzero (Nat.le_of_not_lt hplaces) h
      simpa [NumberStyle.zeros, String.toList_append] using hwrites

theorem writes_scientific :
    Writes x (NumberStyle.json.scientific (Nat.toDigits 10 n)
      (e + (Nat.toDigits 10 n).length - 1)).toList := by
  have hn := Decimal.digits_ne_zero_of_takes hx hzero h
  have hD := isDigit_of_mem (n := n)
  have hvalue : Nat.ofDigitChars 10 (Nat.toDigits 10 n) 0 = n := Nat.ofDigitChars_ten_toDigits
  obtain ⟨hlow, hhigh⟩ := Decimal.top_of_takes hx hzero h
  unfold Decimal.width at hlow hhigh
  obtain ⟨c, ds, hcons, hc⟩ := toDigits_head hn
  dsimp only at hlow hhigh
  rw [hcons] at hD hvalue hlow hhigh ⊢
  generalize hlead : e + (c :: ds).length - 1 = lead
  have hw : IsWhole [c] := .digits (hD c List.mem_cons_self) hc (by simp)
  have h31 : twoPow 31 = 2147483648 := rfl
  have hds : ∀ d ∈ ds, d.isDigit = true := fun d hd => hD d (List.mem_cons_of_mem c hd)
  have := writes_power hx hw hds (decide (lead < 0)) Nat.toDigits_ne_nil
    (isDigit_of_mem (n := lead.natAbs)) ?_ ?_
  · have hmark : (if lead < 0 then "e-" else if NumberStyle.json.plusExponent then "e+" else "e").toList
        = ['e', if decide (lead < 0) = true then '-' else '+'] := by
      rw [show NumberStyle.json.plusExponent = true from rfl, if_pos rfl]
      by_cases hneg : lead < 0
      · rw [if_pos hneg, if_pos (decide_eq_true hneg)]
        rfl
      · rw [if_neg hneg, if_neg (by simpa using hneg)]
        rfl
    unfold NumberStyle.scientific
    rcases ds with _ | ⟨d, ds⟩
    · simpa [String.toList_append, hmark] using this
    · simpa [String.toList_append, hmark] using this
  · rw [Nat.ofDigitChars_ten_toDigits, h31]
    omega
  · rw [Nat.ofDigitChars_ten_toDigits, List.cons_append, List.nil_append, hvalue]
    unfold shifted
    rw [show -(ds.length : ℤ) + (if decide (lead < 0) = true then -(lead.natAbs : ℤ)
      else lead.natAbs) = e by rw [List.length_cons] at hlead; split_ifs <;> grind]
    exact Decimal.toBinary64_of_takes hx hzero h rfl

omit hzero h in
theorem realChars_writes : ∃ u, Writes x u
    ∧ realChars x = (if x.negative then ['-'] else []) ++ u := by
  have hlt : x.magnitude < Binary64.infiniteMagnitude := of_decide_eq_true hx
  have hnan : ¬ x.isNaN = true := fun h => by
    have : Binary64.infiniteMagnitude < x.magnitude := of_decide_eq_true h
    omega
  have hinf : ¬ x.isInfinite = true := fun h => hlt.ne (eq_of_beq h)
  have hsign : (if x.negative then "-" else "").toList = if x.negative then ['-'] else [] := by
    split_ifs <;> rfl
  have htakes := fun hzero => Shortest.takes_digits (x := x) .even hzero x.negative
  unfold realChars
  rw [write_eq]
  beta_reduce
  rw [if_neg hnan, if_neg hinf, show NumberStyle.json.tie = .even from rfl]
  generalize Shortest.digits .even x = r at htakes
  obtain ⟨n, e⟩ := r
  dsimp only at htakes ⊢
  rw [← hsign]
  generalize (if x.negative then "-" else "") = sign
  split_ifs with hzero hlead
  · exact ⟨_, writes_zero hzero, String.toList_append⟩
  · exact ⟨_, writes_positional hx hzero (htakes hzero), String.toList_append⟩
  · exact ⟨_, writes_scientific hx hzero (htakes hzero), String.toList_append⟩

end Real

theorem number_whole (hw : IsWhole w) : number (w ++ rest) = magnitude false (w ++ rest) := by
  obtain ⟨c, ds, rfl, hc⟩ := hw.exists_cons
  rw [List.cons_append]
  unfold number
  split
  · rename_i heq
    cases heq
    cases hc
  · rfl

/-- The text of a number is read as that number. -/
theorem number_realChars (hx : x.isFinite = true) (hrest : Ends rest) :
    number (realChars x ++ rest) = .ok (.real x, rest) := by
  obtain ⟨u, ⟨⟨w, t, rfl, hw⟩, hreads⟩, hchars⟩ := realChars_writes hx
  have hread := hreads rest hrest
  rw [hchars]
  cases hsign : x.negative <;> rw [hsign] at hread
  · rw [← hread, if_neg Bool.false_ne_true, List.nil_append, List.append_assoc, number_whole hw]
  · exact hread

theorem beginsNumber_realChars (hx : x.isFinite = true) : BeginsNumber (realChars x) := by
  obtain ⟨u, ⟨⟨w, t, rfl, hw⟩, -⟩, hchars⟩ := realChars_writes hx
  cases hsign : x.negative <;> rw [hsign] at hchars
  · exact hchars ▸ hw.beginsNumber t
  · exact ⟨'-', _, hchars, rfl⟩

/-! ## Integers -/

theorem afterWhole_integer {i : ℤ} (h : whole negative n = .integer i) (hrest : Ends rest) :
    afterWhole negative n rest = .ok (.integer i, rest) := by
  unfold afterWhole
  split
  · exact absurd rfl hrest.2.1
  · obtain ⟨-, -, he, hE⟩ := hrest
    rw [if_neg (not_or.2 ⟨he, hE⟩), h]
  · rw [h]

theorem natChars_eq (n : ℕ) : natChars n = Nat.toDigits 10 n := Nat.toList_repr

theorem number_natChars (hn : n < twoPow 64) (hrest : Ends rest) :
    number (natChars n ++ rest) = .ok (.integer n, rest) := by
  rw [natChars_eq, number_whole (isWhole_toDigits n),
    magnitude_whole (isWhole_toDigits n) hrest.noDigit, Nat.ofDigitChars_ten_toDigits]
  refine afterWhole_integer ?_ hrest
  unfold whole
  rw [if_neg Bool.false_ne_true, if_pos hn]

/-- The text of an integer of 64 bits, with or without sign, is read as that integer. -/
theorem number_toString {i : ℤ} (hlow : -(twoPow 63 : ℤ) ≤ i) (hhigh : i < twoPow 64)
    (hrest : Ends rest) : number ((toString i).toList ++ rest) = .ok (.integer i, rest) := by
  by_cases hpos : 0 ≤ i
  · obtain ⟨k, rfl⟩ := Int.eq_ofNat_of_zero_le hpos
    exact number_natChars (by exact_mod_cast hhigh) hrest
  · obtain ⟨k, rfl⟩ : ∃ k : ℕ, i = -(k : ℤ) := ⟨i.natAbs, by omega⟩
    have hchars : (toString (-(k : ℤ))).toList = '-' :: Nat.toDigits 10 k := by
      rw [Int.toString_eq_repr, Int.repr_eq_if, if_neg hpos, String.toList_append, Int.neg_neg,
        Int.toNat_natCast, Nat.toList_repr]
      rfl
    have hread : number ('-' :: (Nat.toDigits 10 k ++ rest))
        = magnitude true (Nat.toDigits 10 k ++ rest) := rfl
    rw [hchars, List.cons_append, hread, magnitude_whole (isWhole_toDigits k) hrest.noDigit,
      Nat.ofDigitChars_ten_toDigits]
    refine afterWhole_integer ?_ hrest
    unfold whole
    rw [if_pos rfl, if_neg (by omega)]

theorem beginsNumber_natChars (n : ℕ) : BeginsNumber (natChars n) := by
  have hbegins := (isWhole_toDigits n).beginsNumber []
  rwa [List.append_nil, ← natChars_eq] at hbegins

theorem beginsNumber_toString (i : ℤ) : BeginsNumber (toString i).toList := by
  rw [Int.toString_eq_repr, Int.repr_eq_if]
  split_ifs
  · exact beginsNumber_natChars i.toNat
  · exact ⟨'-', _, String.toList_append, rfl⟩

end ConfirmedDelivery.Json
