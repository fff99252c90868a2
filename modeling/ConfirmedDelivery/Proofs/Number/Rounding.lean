import ConfirmedDelivery.Number.Binary64
import Mathlib.Algebra.Order.Field.Rat
import Mathlib.Tactic.FieldSimp
import Mathlib.Tactic.Linarith
import Mathlib.Tactic.NormNum
import Mathlib.Tactic.Positivity
import Mathlib.Tactic.Ring

/-!
# Rounding

Rounding a quotient gives the nearest natural number, of two that are equally near the even one, and
there is but one such number (`roundDiv_eq_iff`, `nearest_roundDiv`). The bits of a number split into
significand and exponent and are put together from them again; its value is that of the significand
at the place of the exponent (`Binary64.value`).
-/

namespace ConfirmedDelivery

/-- A natural number is nearest to a rational one, and even where it could as well be another. -/
structure Nearest (n : ℕ) (q : ℚ) : Prop where
  within : |q - n| ≤ 1 / 2
  even : |q - n| = 1 / 2 → n % 2 = 0

theorem roundDiv_eq_iff {num den n : ℕ} (h : 0 < den) :
    roundDiv num den = n ↔ 2 * (n * den) ≤ 2 * num + den ∧ 2 * num ≤ 2 * (n * den) + den
      ∧ (2 * (n * den) = 2 * num + den ∨ 2 * num = 2 * (n * den) + den → n % 2 = 0) := by
  have hnum := Nat.div_add_mod num den
  have hrem := Nat.mod_lt num h
  unfold roundDiv
  generalize num / den = q at *
  generalize num % den = r at *
  have hsucc : (q + 1) * den = den * q + den := by ring
  have hq : q * den = den * q := Nat.mul_comm ..
  -- the quotient is one of the two neighbours, or further off than half a step
  have hside : n * den + den ≤ den * q ∨ n = q ∨ n = q + 1 ∨ den * q + 2 * den ≤ n * den := by
    rcases Nat.lt_or_ge n q with hlt | hge
    · have := Nat.mul_le_mul_right den hlt
      rw [Nat.succ_mul] at this
      omega
    · rcases Nat.lt_or_ge (q + 1) n with hlt | hle
      · have := Nat.mul_le_mul_right den hlt
        rw [Nat.succ_mul] at this
        omega
      · omega
  dsimp only
  rcases hside with hside | rfl | rfl | hside
  all_goals split_ifs <;> grind

theorem nearest_iff {num den n : ℕ} (h : 0 < den) :
    Nearest n ((num : ℚ) / den) ↔ roundDiv num den = n := by
  have hden : (0 : ℚ) < den := by exact_mod_cast h
  have hle : (n : ℚ) - num / den ≤ 1 / 2 ↔ 2 * (n * den) ≤ 2 * num + den := by
    rw [← Nat.cast_le (α := ℚ), sub_le_iff_le_add, ← mul_le_mul_iff_left₀ hden]
    push_cast
    field_simp
    constructor <;> intro h <;> linarith
  have hge : (num : ℚ) / den - n ≤ 1 / 2 ↔ 2 * num ≤ 2 * (n * den) + den := by
    rw [← Nat.cast_le (α := ℚ), sub_le_iff_le_add, ← mul_le_mul_iff_left₀ hden]
    push_cast
    field_simp
    constructor <;> intro h <;> linarith
  have hup : (n : ℚ) - num / den = 1 / 2 ↔ 2 * (n * den) = 2 * num + den := by
    rw [← Nat.cast_inj (R := ℚ), sub_eq_iff_eq_add, ← mul_left_inj' hden.ne']
    push_cast
    field_simp
    constructor <;> intro h <;> linarith
  have hdown : (num : ℚ) / den - n = 1 / 2 ↔ 2 * num = 2 * (n * den) + den := by
    rw [← Nat.cast_inj (R := ℚ), sub_eq_iff_eq_add, ← mul_left_inj' hden.ne']
    push_cast
    field_simp
    constructor <;> intro h <;> linarith
  rw [roundDiv_eq_iff h, ← hle, ← hge, ← hup, ← hdown]
  constructor
  · rintro ⟨hwithin, heven⟩
    refine ⟨?_, (abs_le.1 hwithin).2, fun htie => heven ?_⟩
    · linarith [(abs_le.1 hwithin).1]
    · rcases htie with htie | htie
      · rw [abs_sub_comm, htie, abs_of_pos (by norm_num)]
      · rw [htie, abs_of_pos (by norm_num)]
  · rintro ⟨hn, hq, heven⟩
    refine ⟨abs_le.2 ⟨by linarith, hq⟩, fun htie => heven ?_⟩
    rcases (abs_eq (by norm_num)).1 htie with htie | htie
    · exact .inr htie
    · exact .inl (by linarith)

theorem twoPow_pos (n : ℕ) : 0 < twoPow n := Nat.two_pow_pos n

theorem twoPow_cast_pos (n : ℕ) : (0 : ℚ) < (twoPow n : ℕ) := Nat.cast_pos.2 (twoPow_pos n)

/-! ## Significand and exponent -/

namespace Binary64

variable (x : Binary64)

/-- The absolute value of a finite number. -/
def absolute (x : Binary64) : ℚ := (x.units : ℚ) / (twoPow 1074 : ℕ)

/-- The value of a finite number. -/
def value (x : Binary64) : ℚ := if x.negative then -x.absolute else x.absolute

theorem toNat_bits : x.bits.toNat = (if x.negative then twoPow 63 else 0) + x.magnitude := by
  have hbits := x.bits.toNat_lt
  have h63 : twoPow 63 = 9223372036854775808 := rfl
  unfold negative magnitude
  rw [h63]
  split_ifs with h <;> simp only [decide_eq_true_eq] at h <;> omega

/-- A number is known from its sign and magnitude. -/
theorem ofMagnitude_magnitude : ofMagnitude x.negative x.magnitude = x := by
  have h : (if x.negative then x.magnitude + twoPow 63 else x.magnitude) = x.bits.toNat := by
    rw [toNat_bits]
    split_ifs <;> omega
  unfold ofMagnitude
  rw [h, UInt64.ofNat_toNat]

theorem magnitude_eq : x.exponent * twoPow 52 + x.significand = x.magnitude := by
  have h52 : twoPow 52 = 4503599627370496 := rfl
  unfold significand exponent
  rw [h52]
  omega

theorem significand_lt : x.significand < twoPow 53 := by
  have h52 : twoPow 52 = 4503599627370496 := rfl
  have h53 : twoPow 53 = 9007199254740992 := rfl
  unfold significand exponent
  rw [h52, h53]
  omega

theorem significand_normal : twoPow 52 ≤ x.significand ∨ x.exponent = 0 := by
  have h52 : twoPow 52 = 4503599627370496 := rfl
  unfold significand exponent
  rw [h52]
  omega

theorem exponent_le {x : Binary64} (h : x.isFinite = true) : x.exponent ≤ 2045 := by
  have h52 : twoPow 52 = 4503599627370496 := rfl
  have h : x.magnitude < 0x7FF0000000000000 := of_decide_eq_true h
  unfold exponent
  rw [h52]
  omega

theorem units_eq_zero : x.units = 0 ↔ x.magnitude = 0 := by
  have h := x.magnitude_eq
  have hnormal := x.significand_normal
  have h52 : twoPow 52 = 4503599627370496 := rfl
  have hpow : twoPow x.exponent ≠ 0 := (twoPow_pos _).ne'
  rw [h52] at h hnormal
  rw [units, Nat.mul_eq_zero, or_iff_left hpow]
  omega

theorem absolute_pos : 0 < x.absolute ↔ x.magnitude ≠ 0 := by
  rw [absolute, div_pos_iff_of_pos_right (twoPow_cast_pos 1074), Nat.cast_pos, Nat.pos_iff_ne_zero, ne_eq,
    units_eq_zero]

theorem absolute_eq_zero (h : x.magnitude = 0) : x.absolute = 0 := by
  rw [absolute, x.units_eq_zero.2 h, Nat.cast_zero, zero_div]

theorem absolute_nonneg : 0 ≤ x.absolute := by
  by_cases h : x.magnitude = 0
  · rw [absolute_eq_zero x h]
  · exact (x.absolute_pos.2 h).le

theorem value_pos : 0 < x.value ↔ x.negative = false ∧ x.magnitude ≠ 0 := by
  have := x.absolute_nonneg
  cases hsign : x.negative
  · simp [value, hsign, absolute_pos]
  · simp [value, hsign, this]

theorem value_nonneg : 0 ≤ x.value ↔ x.negative = false ∨ x.magnitude = 0 := by
  have hnonneg := x.absolute_nonneg
  cases hsign : x.negative
  · simp [value, hsign, hnonneg]
  · by_cases h : x.magnitude = 0
    · simp [value, hsign, h, absolute_eq_zero x h]
    · have hpos := x.absolute_pos.2 h
      simp [value, hsign, h, hpos]

theorem value_of_nonneg (h : 0 ≤ x.value) : x.value = x.absolute := by
  rcases x.value_nonneg.1 h with hsign | hzero
  · simp [value, hsign]
  · simp [value, absolute_eq_zero x hzero]

end Binary64

end ConfirmedDelivery
