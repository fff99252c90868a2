import ConfirmedDelivery.Number.Numeral
import ConfirmedDelivery.Proofs.Number.Rounding
import Mathlib.Algebra.Order.Field.Power

/-!
# Numbers that read back

A finite number takes what lies in an interval around it: half way to its neighbours on either side,
the ends if its significand is even (`Binary64.Takes`). A quotient that a number takes is rounded to
it (`Binary64.ofRatio_of_takes`), and so is a decimal (`Decimal.toBinary64_of_takes`).
-/

namespace ConfirmedDelivery

namespace Binary64

/-- The lower end of what a number takes, in quarters of the smallest unit. Below a power of two the
neighbour is only half as far. -/
def low (x : Binary64) : ℕ :=
  (4 * x.significand - if x.significand = twoPow 52 ∧ 0 < x.exponent then 1 else 2)
    * twoPow x.exponent

/-- The upper end. -/
def high (x : Binary64) : ℕ := (4 * x.significand + 2) * twoPow x.exponent

/-- What lies between the ends, or on one of them if the significand is even. -/
structure Takes (x : Binary64) (q : ℚ) : Prop where
  low_le : x.low ≤ 4 * (q * (twoPow 1074 : ℕ))
  le_high : 4 * (q * (twoPow 1074 : ℕ)) ≤ x.high
  even : x.low = 4 * (q * (twoPow 1074 : ℕ)) ∨ 4 * (q * (twoPow 1074 : ℕ)) = x.high →
    x.significand % 2 = 0

variable {x : Binary64} {num den : ℕ}

theorem takes_div_iff (hden : 0 < den) : x.Takes ((num : ℚ) / den) ↔
    x.low * den ≤ 4 * (num * twoPow 1074) ∧ 4 * (num * twoPow 1074) ≤ x.high * den
      ∧ (x.low * den = 4 * (num * twoPow 1074) ∨ 4 * (num * twoPow 1074) = x.high * den →
        x.significand % 2 = 0) := by
  have hpos : (0 : ℚ) < den := by exact_mod_cast hden
  have htakes : x.Takes ((num : ℚ) / den) ↔
      (x.low : ℚ) ≤ 4 * ((num : ℚ) / den * (twoPow 1074 : ℕ))
        ∧ 4 * ((num : ℚ) / den * (twoPow 1074 : ℕ)) ≤ x.high
        ∧ ((x.low : ℚ) = 4 * ((num : ℚ) / den * (twoPow 1074 : ℕ))
            ∨ 4 * ((num : ℚ) / den * (twoPow 1074 : ℕ)) = x.high → x.significand % 2 = 0) :=
    ⟨fun ⟨hlow, hhigh, heven⟩ => ⟨hlow, hhigh, heven⟩,
      fun ⟨hlow, hhigh, heven⟩ => ⟨hlow, hhigh, heven⟩⟩
  rw [htakes]
  generalize twoPow 1074 = unit
  have hq : 4 * ((num : ℚ) / den * unit) = ((4 * (num * unit) : ℕ) : ℚ) / den := by
    push_cast
    ring
  rw [hq, le_div_iff₀ hpos, div_le_iff₀ hpos, eq_div_iff hpos.ne', div_eq_iff hpos.ne']
  norm_cast

/-! ## Quotients -/

/-- What is rounded to `n`: all within half a step of it, the ends only if `n` is even. -/
theorem roundDiv_of_within {n : ℕ} (hden : 0 < den) (hlow : (4 * n - 2) * den ≤ 4 * num)
    (hhigh : 4 * num ≤ (4 * n + 2) * den)
    (heven : (4 * n - 2) * den = 4 * num ∨ 4 * num = (4 * n + 2) * den → n % 2 = 0) :
    roundDiv num den = n := by
  rw [roundDiv_eq_iff hden]
  rw [Nat.sub_mul, Nat.mul_assoc] at hlow heven
  rw [Nat.add_mul, Nat.mul_assoc] at hhigh heven
  have hle : den ≤ n * den ∨ n = 0 := by
    rcases n.eq_zero_or_pos with hn | hn
    · exact .inr hn
    · exact .inl (Nat.le_mul_of_pos_left den hn)
  generalize n * den = m at *
  omega

theorem twoPow_le {m n : ℕ} (h : m ≤ n) : twoPow m ≤ twoPow n :=
  Nat.pow_le_pow_right (by decide) h

theorem twoPow_add_mul (k e : ℕ) : twoPow (k + e) * den = twoPow k * (den * twoPow e) := by
  rw [show twoPow (k + e) = twoPow k * twoPow e from Nat.pow_add 2 k e]
  ring

/-- A quotient between two powers of two is rounded at the place of the lower one. -/
theorem nearest_double {e scaled : ℕ} (hden : 0 < den) (hscaled : num * twoPow 1074 = scaled)
    (hlow : e = 0 ∨ twoPow (52 + e) * den ≤ scaled) (hhigh : scaled < twoPow (53 + e) * den) :
    BinaryGrid.double.nearest num den = (roundDiv scaled (den * twoPow e), e) := by
  have hexp : (scaled / den).log2 - 52 = e := by
    have hlt : scaled / den < twoPow (53 + e) := (Nat.div_lt_iff_lt_mul hden).2 hhigh
    by_cases hzero : scaled / den = 0
    · rcases hlow with rfl | hlow
      · rw [hzero, Nat.log2_zero]
      · have := (Nat.le_div_iff_mul_le hden).2 hlow
        have := twoPow_pos (52 + e)
        omega
    · have hupper : (scaled / den).log2 < 53 + e := (Nat.log2_lt hzero).2 hlt
      rcases hlow with rfl | hlow
      · omega
      · have hlower : 52 + e ≤ (scaled / den).log2 :=
          (Nat.le_log2 hzero).2 ((Nat.le_div_iff_mul_le hden).2 hlow)
        omega
  simp only [BinaryGrid.nearest, BinaryGrid.double, hscaled]
  rw [show 53 - 1 = 52 from rfl, hexp]

theorem ofRatio_of_nearest {s e : ℕ} (hx : x.isFinite = true)
    (hnearest : BinaryGrid.double.nearest num den = (s, e))
    (hmagnitude : e * twoPow 52 + s = x.magnitude) : ofRatio x.negative num den = x := by
  have hlt : x.magnitude < infiniteMagnitude := of_decide_eq_true hx
  simp only [ofRatio, hnearest, hmagnitude]
  rw [Nat.min_eq_left hlt.le, ofMagnitude_magnitude]

/-- What a number takes, in steps of its place. -/
theorem Takes.steps (hden : 0 < den) (h : x.Takes ((num : ℚ) / den)) :
    (4 * x.significand - if x.significand = twoPow 52 ∧ 0 < x.exponent then 1 else 2)
        * (den * twoPow x.exponent) ≤ 4 * (num * twoPow 1074)
      ∧ 4 * (num * twoPow 1074) ≤ (4 * x.significand + 2) * (den * twoPow x.exponent)
      ∧ ((4 * x.significand - if x.significand = twoPow 52 ∧ 0 < x.exponent then 1 else 2)
          * (den * twoPow x.exponent) = 4 * (num * twoPow 1074)
        ∨ 4 * (num * twoPow 1074) = (4 * x.significand + 2) * (den * twoPow x.exponent) →
          x.significand % 2 = 0) := by
  have hmul : ∀ c, c * twoPow x.exponent * den = c * (den * twoPow x.exponent) := fun c => by ring
  simpa only [low, high, hmul] using (takes_div_iff hden).1 h

/-- A quotient that is not below the powers of two at the place of a number is rounded there. -/
theorem ofRatio_of_takes_within (hx : x.isFinite = true) (hden : 0 < den)
    (h : x.Takes ((num : ℚ) / den))
    (hplace : x.exponent = 0 ∨ twoPow (52 + x.exponent) * den ≤ num * twoPow 1074) :
    ofRatio x.negative num den = x := by
  obtain ⟨hlow, hhigh, heven⟩ := h.steps hden
  have hS := x.significand_lt
  have hD : 0 < den * twoPow x.exponent := Nat.mul_pos hden (twoPow_pos _)
  have h52 : twoPow 52 = 4503599627370496 := rfl
  have h53 : twoPow 53 = 9007199254740992 := rfl
  generalize hscaled : num * twoPow 1074 = scaled at hlow hhigh heven hplace
  have htop : scaled < twoPow (53 + x.exponent) * den := by
    rw [twoPow_add_mul]
    rw [h53] at hS ⊢
    nlinarith
  refine ofRatio_of_nearest hx (nearest_double hden hscaled hplace htop) ?_
  suffices roundDiv scaled (den * twoPow x.exponent) = x.significand from
    this.symm ▸ x.magnitude_eq
  rw [twoPow_add_mul] at hplace
  by_cases hpower : x.significand = twoPow 52 ∧ 0 < x.exponent
  · -- the shorter half step below a power of two plays no part, as `hplace` keeps above it
    rw [if_pos hpower] at hlow
    rw [hpower.1, h52] at hlow hhigh ⊢
    rw [h52] at hplace
    generalize den * twoPow x.exponent = D at *
    refine roundDiv_of_within hD ?_ hhigh ?_ <;> omega
  · rw [if_neg hpower] at hlow heven
    exact roundDiv_of_within hD hlow hhigh heven

/-- A quotient below the power of two that a number is, is rounded at the next lower place. -/
theorem ofRatio_of_takes_below (hx : x.isFinite = true) (hden : 0 < den)
    (h : x.Takes ((num : ℚ) / den)) (hexp : 0 < x.exponent)
    (hbelow : num * twoPow 1074 < twoPow (52 + x.exponent) * den) :
    ofRatio x.negative num den = x := by
  obtain ⟨hlow, -, -⟩ := h.steps hden
  have hnormal := x.significand_normal
  have h52 : twoPow 52 = 4503599627370496 := rfl
  have h53 : twoPow 53 = 9007199254740992 := rfl
  generalize hscaled : num * twoPow 1074 = scaled at hlow hbelow
  rw [twoPow_add_mul] at hbelow
  have hpower : x.significand = twoPow 52 := by
    by_contra hne
    rw [if_neg fun h => hne h.1] at hlow
    rw [h52] at hne hnormal hbelow
    have hS : 4 * 4503599627370496 + 2 ≤ 4 * x.significand - 2 := by omega
    have := (Nat.mul_le_mul_right _ hS).trans hlow
    omega
  rw [if_pos ⟨hpower, hexp⟩, hpower] at hlow
  obtain ⟨e, he⟩ := Nat.exists_eq_add_of_lt hexp
  rw [Nat.zero_add] at he
  have hhalf : den * twoPow x.exponent = 2 * (den * twoPow e) := by
    rw [he, show twoPow (e + 1) = twoPow e * 2 from Nat.pow_succ ..]
    ring
  have hD : 0 < den * twoPow e := Nat.mul_pos hden (twoPow_pos e)
  rw [hhalf, h52] at hlow hbelow
  have hnearest := nearest_double (e := e) hden hscaled
    (.inr (by rw [twoPow_add_mul, h52]; omega)) (by rw [twoPow_add_mul, h53]; omega)
  refine ofRatio_of_nearest hx hnearest ?_
  rw [← x.magnitude_eq, he, hpower, roundDiv_of_within (n := twoPow 53) hD, h52, h53]
  · omega
  all_goals rw [h53]; omega

theorem ofRatio_of_takes (hx : x.isFinite = true) (hden : 0 < den)
    (h : x.Takes ((num : ℚ) / den)) : ofRatio x.negative num den = x := by
  by_cases hplace : x.exponent = 0 ∨ twoPow (52 + x.exponent) * den ≤ num * twoPow 1074
  · exact ofRatio_of_takes_within hx hden h hplace
  · rw [not_or, not_le] at hplace
    exact ofRatio_of_takes_below hx hden h (Nat.pos_of_ne_zero hplace.1) hplace.2

/-! ## Decimals -/

theorem significand_pos (hzero : x.magnitude ≠ 0) : 0 < x.significand := by
  refine Nat.pos_of_ne_zero fun h => hzero (x.units_eq_zero.1 ?_)
  rw [units, h, Nat.zero_mul]

theorem low_pos (hzero : x.magnitude ≠ 0) : 2 ≤ x.low := by
  have hS := significand_pos hzero
  refine le_trans ?_ (Nat.le_mul_of_pos_right _ (twoPow_pos x.exponent))
  split_ifs <;> omega

theorem high_lt (hx : x.isFinite = true) : x.high < 4 * (twoPow 1024 * twoPow 1074) := by
  have hS := x.significand_lt
  have h53 : twoPow 53 = 9007199254740992 := rfl
  have h55 : twoPow 55 = 36028797018963968 := rfl
  have hpow := twoPow_le (exponent_le hx)
  have htop : twoPow 55 * twoPow 2045 = 4 * (twoPow 1024 * twoPow 1074) := by decide +kernel
  have hpos := twoPow_pos 2045
  rw [h53] at hS
  rw [← htop, h55]
  generalize twoPow 2045 = p at hpow hpos
  calc x.high ≤ (4 * x.significand + 2) * p := Nat.mul_le_mul_left _ hpow
    _ < 36028797018963968 * p := Nat.mul_lt_mul_of_pos_right (by omega) hpos

/-- Nothing that a number takes is larger than all powers of two below infinity, or smaller than
half the smallest unit. -/
theorem Takes.between {q : ℚ} (h : x.Takes q) (hx : x.isFinite = true) (hzero : x.magnitude ≠ 0) :
    1 / (twoPow 1075 : ℕ) ≤ q ∧ q < (twoPow 1024 : ℕ) := by
  have hlow := (Nat.cast_le (α := ℚ).2 (low_pos hzero)).trans h.low_le
  have hhigh := h.le_high.trans_lt (Nat.cast_lt (α := ℚ).2 (high_lt hx))
  have hhalf : (twoPow 1075 : ℕ) = 2 * twoPow 1074 := by decide +kernel
  have hpos := twoPow_cast_pos 1074
  rw [hhalf]
  rw [Nat.cast_mul] at hhigh ⊢
  rw [Nat.cast_mul] at hhigh
  clear hhalf
  generalize ((twoPow 1074 : ℕ) : ℚ) = unit at *
  constructor
  · rw [div_le_iff₀ (by positivity)]
    push_cast at hlow ⊢
    linarith
  · push_cast at hhigh
    nlinarith

end Binary64

theorem tenPow_pos (n : ℕ) : 0 < tenPow n := Nat.pow_pos (by decide)

theorem tenPow_cast (n : ℕ) : ((tenPow n : ℕ) : ℚ) = 10 ^ (n : ℤ) := by
  rw [zpow_natCast, show tenPow n = 10 ^ n from rfl, Nat.cast_pow, Nat.cast_ofNat]

namespace Decimal

/-- The absolute value of a decimal. -/
def absolute (d : Decimal) : ℚ := d.digits * 10 ^ d.exponent

theorem absolute_of_nonneg {d : Decimal} (h : 0 ≤ d.exponent) :
    d.absolute = ((d.digits * tenPow d.exponent.toNat : ℕ) : ℚ) / (1 : ℕ) := by
  obtain ⟨n, hn⟩ := Int.eq_ofNat_of_zero_le h
  rw [absolute, hn, Int.toNat_natCast, Nat.cast_mul, Nat.cast_one, div_one, tenPow_cast]

theorem absolute_of_neg {d : Decimal} (h : ¬ 0 ≤ d.exponent) :
    d.absolute = (d.digits : ℚ) / (tenPow (-d.exponent).toNat : ℕ) := by
  obtain ⟨n, hn⟩ := Int.eq_ofNat_of_zero_le (show 0 ≤ -d.exponent by omega)
  have hexp : d.exponent = -(n : ℤ) := by omega
  rw [absolute, hn, hexp, Int.toNat_natCast, zpow_neg, tenPow_cast, div_eq_mul_inv]

theorem width_pos (n : ℕ) : 0 < width n := Nat.length_toDigits_pos

theorem lt_tenPow_width (n : ℕ) : n < 10 ^ width n :=
  (Nat.length_toDigits_le_iff (by decide) (width_pos n)).1 (Nat.le_refl _)

theorem tenPow_width_le {n : ℕ} (h : n ≠ 0) : 10 ^ (width n - 1) ≤ n := by
  rcases (show width n = 1 ∨ 1 < width n by have := width_pos n; omega) with hw | hw
  · rw [hw]
    exact Nat.pos_of_ne_zero h
  · by_contra hlt
    have hle := (Nat.length_toDigits_le_iff (n := n) (by decide) (Nat.sub_pos_of_lt hw)).2
      (Nat.lt_of_not_le hlt)
    change width n ≤ width n - 1 at hle
    omega

/-- A decimal lies below the power of ten that its first digit stands before, and not below the one
that it stands at. -/
theorem absolute_between {d : Decimal} (h : d.digits ≠ 0) :
    (10 : ℚ) ^ (d.exponent + width d.digits - 1) ≤ d.absolute
      ∧ d.absolute < 10 ^ (d.exponent + width d.digits) := by
  have hpos : (0 : ℚ) < 10 ^ d.exponent := by positivity
  have hw := width_pos d.digits
  obtain ⟨w, hw'⟩ := Nat.exists_eq_add_of_lt hw
  rw [Nat.zero_add] at hw'
  constructor
  · have hle := tenPow_width_le h
    rw [hw', Nat.add_sub_cancel] at hle
    rw [hw', absolute, Nat.cast_succ, ← add_assoc, add_sub_cancel_right, zpow_add₀ (by norm_num),
      zpow_natCast, mul_comm]
    exact mul_le_mul_of_nonneg_right (by exact_mod_cast hle) hpos.le
  · rw [absolute, zpow_add₀ (by norm_num), zpow_natCast, mul_comm]
    exact mul_lt_mul_of_pos_left (by exact_mod_cast lt_tenPow_width d.digits) hpos

section Takes

variable {d : Decimal} {x : Binary64} (hx : x.isFinite = true) (hzero : x.magnitude ≠ 0)
  (h : x.Takes d.absolute)

include hx hzero h

theorem digits_ne_zero_of_takes : d.digits ≠ 0 := by
  intro hz
  have hlow := (h.between hx hzero).1
  rw [absolute, hz, Nat.cast_zero, zero_mul, div_le_iff₀ (twoPow_cast_pos 1075)] at hlow
  linarith

/-- The first digit stands within four hundred places of the point. -/
theorem top_of_takes : -400 ≤ d.exponent + width d.digits ∧ d.exponent + width d.digits ≤ 400 := by
  obtain ⟨hlow, hhigh⟩ := h.between hx hzero
  obtain ⟨hlead, htop⟩ := absolute_between (digits_ne_zero_of_takes hx hzero h)
  have hlarge : ((twoPow 1024 : ℕ) : ℚ) ≤ 10 ^ (400 : ℤ) := by
    exact_mod_cast show twoPow 1024 ≤ 10 ^ 400 by decide +kernel
  have hsmall : ((10 : ℚ) ^ (400 : ℤ))⁻¹ ≤ 1 / (twoPow 1075 : ℕ) := by
    rw [one_div]
    refine inv_anti₀ (twoPow_cast_pos 1075) ?_
    exact_mod_cast show twoPow 1075 ≤ 10 ^ 400 by decide +kernel
  constructor <;> by_contra hnot
  · have : (10 : ℚ) ^ (d.exponent + width d.digits) ≤ 10 ^ (-400 : ℤ) :=
      zpow_le_zpow_right₀ (by norm_num) (by omega)
    rw [zpow_neg] at this
    linarith
  · have : (10 : ℚ) ^ (400 : ℤ) ≤ 10 ^ (d.exponent + width d.digits - 1) :=
      zpow_le_zpow_right₀ (by norm_num) (by omega)
    linarith

/-- A decimal that a number takes reads as that number. -/
theorem toBinary64_of_takes (hsign : d.negative = x.negative) : d.toBinary64 = x := by
  obtain ⟨hle, hge⟩ := top_of_takes hx hzero h
  simp only [toBinary64, roundWith, if_neg (digits_ne_zero_of_takes hx hzero h),
    if_neg (Int.not_lt.2 hle), if_neg (Int.not_lt.2 hge), hsign]
  split_ifs with hexp
  · rw [absolute_of_nonneg hexp] at h
    exact Binary64.ofRatio_of_takes hx Nat.one_pos h
  · rw [absolute_of_neg hexp] at h
    exact Binary64.ofRatio_of_takes hx (tenPow_pos _) h

end Takes

end Decimal

end ConfirmedDelivery
