import ConfirmedDelivery.Number.Shortest
import ConfirmedDelivery.Proofs.Number.Reading

/-!
# The shortest decimal reads back

What the search for a decimal finds lies in the interval of the number, and a grid of seventeen digits
is fine enough for it to find one: its step is less than the interval is wide. So the decimal found
reads as the number (`Shortest.takes_digits`).
-/

namespace ConfirmedDelivery.Shortest

section Search

variable {tie : Tie} {w : Window} {step : ℕ}

/-- A neighbour that is found lies in the interval, and none is found only if none does. -/
theorem neighbour?_cases (tie : Tie) (w : Window) (step : ℕ) :
    (∃ n, neighbour? tie w step = some n ∧ w.holds (n * step) = true)
      ∨ neighbour? tie w step = none ∧ w.holds (w.value / step * step) = false
        ∧ w.holds ((w.value / step + 1) * step) = false := by
  unfold neighbour?
  dsimp only
  generalize w.value / step = q
  rcases hlow : w.holds (q * step) with _ | _ <;> rcases hhigh : w.holds ((q + 1) * step) with _ | _
  · exact .inr ⟨rfl, rfl, rfl⟩
  · exact .inl ⟨_, rfl, hhigh⟩
  · exact .inl ⟨_, rfl, hlow⟩
  · left
    dsimp only
    by_cases hdown : w.value - q * step < (q + 1) * step - w.value
    · exact ⟨_, if_pos hdown, hlow⟩
    rw [if_neg hdown]
    by_cases hup : (q + 1) * step - w.value < w.value - q * step
    · exact ⟨_, if_pos hup, hhigh⟩
    rw [if_neg hup]
    rcases tie with _ | _
    · exact ⟨_, rfl, hhigh⟩
    · by_cases heven : q % 2 = 0
      · exact ⟨_, congrArg some (if_pos heven), hlow⟩
      · exact ⟨_, congrArg some (if_neg heven), hhigh⟩

theorem Window.holds_iff {w : Window} {n : ℕ} : w.holds n = true ↔
    w.low ≤ n ∧ n ≤ w.high ∧ (w.low = n ∨ n = w.high → w.closed = true) := by
  unfold Window.holds
  cases w.closed
  · rw [if_neg Bool.false_ne_true, decide_eq_true_eq]
    grind
  · rw [if_pos rfl, decide_eq_true_eq]
    grind

variable (tie) in
/-- A grid whose step is less than the interval is wide has a neighbour in it. -/
theorem neighbour?_ne_none (hstep : 0 < step) (hlow : w.low < w.value) (hhigh : w.value < w.high)
    (hwide : w.low + step < w.high) : neighbour? tie w step ≠ none := by
  intro hnone
  rcases neighbour?_cases tie w step with ⟨n, hn, -⟩ | ⟨-, hdown, hup⟩
  · rw [hnone] at hn
    cases hn
  have hbelow := Nat.div_mul_le_self w.value step
  have habove := Nat.lt_mul_div_succ w.value hstep
  rw [← Bool.not_eq_true, Window.holds_iff] at hdown hup
  rw [Nat.mul_comm step] at habove
  rw [Nat.add_mul, Nat.one_mul] at habove hup
  generalize w.value / step * step = n at *
  omega

/-- The search ends on a grid that has a neighbour in the interval, if one of those tried has. -/
theorem search_holds {unit : ℕ} : ∀ {tries place k : ℕ}, k < tries →
    neighbour? tie w (tenPow (place - k) * unit) ≠ none →
      w.holds ((search tie w unit tries place).1
        * (tenPow (search tie w unit tries place).2 * unit)) = true
  | tries + 1, place, k, hk, h => by
    unfold search
    rcases neighbour?_cases tie w (tenPow place * unit) with ⟨n, hn, hholds⟩ | ⟨hn, -, -⟩
    · rw [hn]
      exact hholds
    · rw [hn]
      rcases k with _ | k
      · exact absurd hn h
      · rw [show place - (k + 1) = place - 1 - k by omega] at h
        exact search_holds (Nat.lt_of_succ_lt_succ hk) h

end Search

theorem absolute_strip : ∀ (fuel n : ℕ) (e : ℤ) (negative : Bool),
    Decimal.absolute ⟨negative, (strip fuel n e).1, (strip fuel n e).2⟩
      = Decimal.absolute ⟨negative, n, e⟩
  | 0, _, _, _ => rfl
  | fuel + 1, n, e, negative => by
    unfold strip
    split_ifs with h
    · rw [absolute_strip fuel (n / 10) (e + 1) negative]
      obtain ⟨m, rfl⟩ := Nat.dvd_of_mod_eq_zero h
      unfold Decimal.absolute
      dsimp only
      rw [Nat.mul_div_cancel_left m (by decide), zpow_add_one₀ (by norm_num)]
      push_cast
      ring
    · rfl

variable {x : Binary64}

theorem scale_pos : 0 < scale := by
  unfold scale
  exact tenPow_pos 350

/-- The number one on the scale. -/
def whole : ℕ := 4 * twoPow 1074

theorem whole_eq : whole = 4 * twoPow 1074 := by rw [whole]

theorem whole_pos : 0 < whole := Nat.mul_pos (by decide) (twoPow_pos 1074)

theorem window_low : (window x.significand x.exponent).low = x.low * scale := by
  unfold window Binary64.low
  rw [Nat.mul_assoc]

theorem window_high : (window x.significand x.exponent).high = x.high * scale := by
  unfold window Binary64.high
  rw [Nat.mul_assoc]

theorem window_closed :
    (window x.significand x.exponent).closed = true ↔ x.significand % 2 = 0 := by
  unfold window
  exact decide_eq_true_iff

/-- A scaled decimal in the interval of a number is one that the number takes. -/
theorem takes_of_holds {n place : ℕ}
    (h : (window x.significand x.exponent).holds (n * (tenPow place * whole)) = true) :
    x.Takes (((n * tenPow place : ℕ) : ℚ) / scale) := by
  rw [Binary64.takes_div_iff scale_pos]
  rw [Window.holds_iff, window_low, window_high, window_closed] at h
  have hscaled : n * (tenPow place * whole) = 4 * (n * tenPow place * twoPow 1074) := by
    unfold whole
    generalize twoPow 1074 = unit
    ring
  rwa [hscaled] at h

/-! ## Seventeen digits -/

theorem tenPow_le_value (hzero : x.magnitude ≠ 0) :
    tenPow 16 * whole ≤ (window x.significand x.exponent).value := by
  have hscale : tenPow 16 * whole ≤ 4 * scale := by decide +kernel
  refine hscale.trans ?_
  unfold window
  dsimp only
  have hunit := Nat.le_mul_of_pos_left scale (twoPow_pos x.exponent)
  exact Nat.mul_le_mul (Nat.le_mul_of_pos_right 4 (Binary64.significand_pos hzero)) hunit

/-- The step of the seventeenth digit is less than the interval is wide. -/
theorem window_wide (hzero : x.magnitude ≠ 0) {step : ℕ}
    (h : tenPow 16 * step ≤ (window x.significand x.exponent).value) :
    (window x.significand x.exponent).low < (window x.significand x.exponent).value
      ∧ (window x.significand x.exponent).value < (window x.significand x.exponent).high
      ∧ (window x.significand x.exponent).low + step
        < (window x.significand x.exponent).high := by
  have hU : 0 < twoPow x.exponent * scale := Nat.mul_pos (twoPow_pos _) scale_pos
  have hpos := Binary64.significand_pos hzero
  have hlt := x.significand_lt
  have h52 : twoPow 52 = 4503599627370496 := rfl
  have h53 : twoPow 53 = 9007199254740992 := rfl
  have h16 : tenPow 16 = 10000000000000000 := rfl
  unfold window at h ⊢
  dsimp only at h ⊢
  rw [h53] at hlt
  rw [h16] at h
  rw [h52]
  generalize twoPow x.exponent * scale = U at h hU ⊢
  generalize x.significand = S at *
  have hU' : U ≤ S * U := Nat.le_mul_of_pos_left U hpos
  have hSU : S * U ≤ 9007199254740991 * U := Nat.mul_le_mul_right U (by omega)
  rw [Nat.mul_assoc] at h
  rw [Nat.sub_mul, Nat.add_mul, Nat.mul_assoc]
  split_ifs with hpower
  · obtain ⟨rfl, -⟩ := hpower
    omega
  · omega

/-- The grid of the seventeenth digit, counted from that of the first one. -/
theorem tenPow_place_le {value unit : ℕ} (hunit : 0 < unit) (h : tenPow 16 * unit ≤ value) :
    tenPow 16 * (tenPow (Decimal.width (value / unit) - 1 - 16) * unit) ≤ value := by
  have hle : tenPow 16 ≤ value / unit := (Nat.le_div_iff_mul_le hunit).2 h
  have hne : value / unit ≠ 0 := ((tenPow_pos 16).trans_le hle).ne'
  have hwidth : 16 < Decimal.width (value / unit) := by
    by_contra hw
    have hlt := Decimal.lt_tenPow_width (value / unit)
    have : tenPow (Decimal.width (value / unit)) ≤ tenPow 16 :=
      Nat.pow_le_pow_right (by decide) (by omega)
    exact absurd (hle.trans_lt hlt) (Nat.not_lt.2 this)
  have hsplit : tenPow 16 * tenPow (Decimal.width (value / unit) - 1 - 16)
      = tenPow (Decimal.width (value / unit) - 1) := by
    refine (Nat.pow_add 10 16 (Decimal.width (value / unit) - 1 - 16)).symm.trans ?_
    rw [show 16 + (Decimal.width (value / unit) - 1 - 16) = Decimal.width (value / unit) - 1 by
      omega]
    rfl
  rw [← Nat.mul_assoc, hsplit]
  exact (Nat.mul_le_mul_right unit (Decimal.tenPow_width_le hne)).trans
    (Nat.div_mul_le_self value unit)

-- an equation between functions: one at an argument would have the search evaluated
theorem digits_eq : digits = fun tie x =>
    let w := window x.significand x.exponent
    let unit := 4 * twoPow 1074
    let place := Decimal.width (w.value / unit) - 1
    let (n, place) := search tie w unit 17 place
    strip 17 n (place - 350) := by
  delta digits
  rfl

theorem digits_cases {tie : Tie} {P : ℕ × ℤ → Prop}
    (h : ∀ n place, search tie (window x.significand x.exponent) whole 17
        (Decimal.width ((window x.significand x.exponent).value / whole) - 1) = (n, place) →
      P (strip 17 n (place - 350))) : P (digits tie x) := by
  rw [digits_eq]
  beta_reduce
  extract_lets w unit place
  obtain hunit : unit = whole := whole_eq.symm
  clear_value unit
  generalize hr : search _ _ _ _ _ = r
  obtain ⟨n, place'⟩ := r
  exact h n place' (hunit ▸ hr)

theorem scale_cast : (10 : ℚ) ^ (350 : ℤ) = (scale : ℕ) := by
  unfold scale
  exact (tenPow_cast 350).symm

theorem absolute_scaled (n place : ℕ) (negative : Bool) :
    Decimal.absolute ⟨negative, n, (place : ℤ) - 350⟩ = ((n * tenPow place : ℕ) : ℚ) / scale := by
  unfold Decimal.absolute
  dsimp only
  rw [zpow_sub₀ (by norm_num), scale_cast, ← tenPow_cast]
  generalize scale = s
  rw [Nat.cast_mul, mul_div_assoc]

theorem takes_digits (tie : Tie) (hzero : x.magnitude ≠ 0) (negative : Bool) :
    x.Takes (Decimal.absolute ⟨negative, (digits tie x).1, (digits tie x).2⟩) := by
  have hplace := tenPow_place_le whole_pos (tenPow_le_value hzero)
  obtain ⟨hlow, hhigh, hwide⟩ := window_wide hzero hplace
  have hfound := neighbour?_ne_none tie (Nat.mul_pos (tenPow_pos _) whole_pos) hlow hhigh
    hwide
  have hholds := search_holds (show 16 < 17 by decide) hfound
  refine digits_cases (P := fun r => x.Takes (Decimal.absolute ⟨negative, r.1, r.2⟩)) ?_
  intro n place hsearch
  rw [hsearch] at hholds
  rw [absolute_strip, absolute_scaled]
  exact takes_of_holds hholds

end ConfirmedDelivery.Shortest
