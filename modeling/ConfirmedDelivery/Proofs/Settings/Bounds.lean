import ConfirmedDelivery.Proofs.Number.Rounding
import ConfirmedDelivery.Publisher

/-!
# Bounds that a publisher waits by

A number of seconds becomes the span nearest to its value, if it is not negative and the span can be
held (`Span.ofSeconds?_eq_some`). Settings are let through if each of their bounds has a span and a
value above zero. That does not make the span one above zero: half a nanosecond and less rounds to
nothing, and only then (`check_bounds`, `check_passes_nothing`).
-/

namespace ConfirmedDelivery

namespace Span

theorem ofSeconds?_eq_some {x : Binary64} {d : Span} :
    ofSeconds? x = some d ↔ x.isFinite = true ∧ 0 ≤ x.value
      ∧ Nearest d.nanos (x.value * 1000000000) ∧ d.nanos < limit := by
  have hguard : (x.isFinite && !(x.negative && x.magnitude != 0)) = true
      ↔ x.isFinite = true ∧ 0 ≤ x.value := by
    rw [Binary64.value_nonneg]
    cases x.isFinite <;> cases x.negative <;> simp
  have hround (h : 0 ≤ x.value) (n : ℕ) : Nearest n (x.value * 1000000000)
      ↔ roundDiv (x.units * 1000000000) (twoPow 1074) = n := by
    rw [← nearest_iff (twoPow_pos 1074), x.value_of_nonneg h, Binary64.absolute,
      div_mul_eq_mul_div, Nat.cast_mul, Nat.cast_ofNat]
  unfold ofSeconds?
  by_cases hok : x.isFinite = true ∧ 0 ≤ x.value
  · rw [if_pos (hguard.2 hok), hround hok.2]
    obtain ⟨nanos⟩ := d
    by_cases hlimit : roundDiv (x.units * 1000000000) (twoPow 1074) < limit
    · simp only [hlimit, if_true, hok, true_and, Option.some.injEq, mk.injEq]
      grind
    · simp only [hlimit, if_false, hok, true_and, reduceCtorEq, false_iff]
      grind
  · rw [if_neg (mt hguard.1 hok)]
    simp only [reduceCtorEq, false_iff]
    exact fun h => hok ⟨h.1, h.2.1⟩

/-- Above zero, by no more than half a nanosecond. -/
def Slight (x : Binary64) : Prop := x.isFinite = true ∧ 0 < x.value ∧ x.value * 1000000000 ≤ 1 / 2

theorem nearest_zero {q : ℚ} (h : 0 ≤ q) : Nearest 0 q ↔ q ≤ 1 / 2 := by
  constructor
  · intro hnearest
    have hwithin := hnearest.within
    rw [Nat.cast_zero, sub_zero, abs_of_nonneg h] at hwithin
    exact hwithin
  · intro hle
    exact ⟨by rwa [Nat.cast_zero, sub_zero, abs_of_nonneg h], fun _ => rfl⟩

theorem ofSeconds?_zero {x : Binary64} (h : 0 < x.value) :
    ofSeconds? x = some zero ↔ Slight x := by
  have hlimit : zero.nanos < limit := by decide
  rw [ofSeconds?_eq_some, Slight]
  change _ ∧ _ ∧ Nearest 0 _ ∧ _ ↔ _
  rw [nearest_zero (by positivity)]
  simp [h, h.le, hlimit]

theorem slight_or_pos {x : Binary64} {d : Span} (hd : ofSeconds? x = some d) (h : 0 < x.value) :
    0 < d.nanos ∨ Slight x := by
  rcases Nat.eq_zero_or_pos d.nanos with hzero | hpos
  · obtain ⟨nanos⟩ := d
    obtain rfl : nanos = 0 := hzero
    exact .inr ((ofSeconds?_zero h).1 hd)
  · exact .inl hpos

theorem value_pos_of_nanos {x : Binary64} {d : Span} (hd : ofSeconds? x = some d)
    (h : 0 < d.nanos) : 0 < x.value := by
  obtain ⟨-, hnonneg, hnearest, -⟩ := ofSeconds?_eq_some.1 hd
  refine lt_of_le_of_ne hnonneg fun hzero => ?_
  have hwithin := hnearest.within
  rw [← hzero, zero_mul, zero_sub, abs_neg, Nat.abs_cast] at hwithin
  have hone : (1 : ℚ) ≤ d.nanos := Nat.one_le_cast.2 h
  linarith

end Span

namespace Settings

/-- The numbers of seconds that bound what is waited for. -/
def bounds (s : Settings) : List Binary64 :=
  s.timeoutSecs :: s.batchConfirmTimeoutSecs :: s.retry.deadlineSecs.toList

theorem positive_iff {x : Binary64} (h : x.isFinite = true) : x.positive = true ↔ 0 < x.value := by
  have hfinite : x.magnitude < Binary64.infiniteMagnitude := of_decide_eq_true h
  have hnan : x.isNaN = false := decide_eq_false (by omega)
  rw [Binary64.value_pos, Binary64.positive, hnan, Binary64.rank]
  cases x.negative
  · simp [Nat.pos_iff_ne_zero]
  · simp

/-- A number of seconds can bound a wait if it has a span above zero, or is slight. -/
theorem canBound_iff {x : Binary64} :
    canBound x = true ↔ ∃ d, Span.ofSeconds? x = some d ∧ (0 < d.nanos ∨ Span.Slight x) := by
  simp only [canBound, Bool.and_eq_true, Option.isSome_iff_exists]
  constructor
  · rintro ⟨⟨hfinite, hpos⟩, d, hd⟩
    exact ⟨d, hd, Span.slight_or_pos hd ((positive_iff hfinite).1 hpos)⟩
  · rintro ⟨d, hd, hpos⟩
    have hfinite := (Span.ofSeconds?_eq_some.1 hd).1
    have hvalue : 0 < x.value := hpos.elim (Span.value_pos_of_nanos hd) (·.2.1)
    exact ⟨⟨hfinite, (positive_iff hfinite).2 hvalue⟩, d, hd⟩

theorem bind_eq_ok {ε : Type} {a : Except ε Unit} {f : Unit → Except ε Unit} :
    (a >>= f) = .ok () ↔ a = .ok () ∧ f () = .ok () := by
  cases a <;> simp [bind, Except.bind]

theorem checkSeconds_eq_ok {field : String} {x : Binary64} :
    checkSeconds field x = .ok () ↔ canBound x = true := by
  unfold checkSeconds
  split_ifs with h <;> simp [h]

theorem check_eq_ok {s : Settings} :
    s.check = .ok () ↔ 1 ≤ s.batchSize ∧ ∀ x ∈ s.bounds, canBound x = true := by
  unfold check bounds
  rw [List.forall_mem_cons, List.forall_mem_cons]
  by_cases hsize : s.batchSize = 0
  · simp [hsize, bind, Except.bind]
  · rw [if_neg hsize]
    cases s.retry.deadlineSecs <;>
      simp [bind_eq_ok, checkSeconds_eq_ok, Nat.one_le_iff_ne_zero, hsize]

end Settings

namespace Publisher

variable (p : Publisher)

theorem canBound_of_mem {x : Binary64} (h : x ∈ p.settings.bounds) :
    Settings.canBound x = true :=
  (Settings.check_eq_ok.1 p.sound).2 x h

theorem ofSeconds_eq_zero {x : Binary64} (h : x ∈ p.settings.bounds) :
    Span.ofSeconds x = .zero ↔ Span.Slight x := by
  obtain ⟨d, hd, hpos⟩ := Settings.canBound_iff.1 (p.canBound_of_mem h)
  have hvalue : 0 < x.value := hpos.elim (Span.value_pos_of_nanos hd) (·.2.1)
  rw [← Span.ofSeconds?_zero hvalue, Span.ofSeconds, hd]
  simp

end Publisher

/-- The deadline is the span nearest to its number of seconds, if that can be held. -/
theorem RetryLimits.deadline_of_nearest {l : RetryLimits} {x : Binary64} {d : Span}
    (hx : l.deadlineSecs = some x) (hfinite : x.isFinite = true) (hnonneg : 0 ≤ x.value)
    (hnearest : Nearest d.nanos (x.value * 1000000000)) (hlimit : d.nanos < Span.limit) :
    l.deadline = some d := by
  have hd : Span.ofSeconds? x = some d :=
    Span.ofSeconds?_eq_some.2 ⟨hfinite, hnonneg, hnearest, hlimit⟩
  rw [deadline, hx, Option.map_some, Span.ofSeconds, hd, Option.getD_some]

/-- Settings are let through if there is a message in a batch and each bound has a span above zero or
is slight; the span of a bound is the one nearest to its value; and so what a publisher waits by is
nothing where its bound is slight, and nowhere else. -/
theorem check_bounds (s : Settings) :
    (s.check = .ok () ↔ 1 ≤ s.batchSize
      ∧ ∀ x ∈ s.bounds, ∃ d, Span.ofSeconds? x = some d ∧ (0 < d.nanos ∨ Span.Slight x))
    ∧ (∀ x d, Span.ofSeconds? x = some d ↔ x.isFinite = true ∧ 0 ≤ x.value
      ∧ Nearest d.nanos (x.value * 1000000000) ∧ d.nanos < Span.limit)
    ∧ ∀ p : Publisher,
      (p.settings.timeout = .zero ↔ Span.Slight p.settings.timeoutSecs)
      ∧ (p.settings.batchConfirmTimeout = .zero ↔ Span.Slight p.settings.batchConfirmTimeoutSecs)
      ∧ (p.settings.retry.deadline = some .zero
        ↔ ∃ x, p.settings.retry.deadlineSecs = some x ∧ Span.Slight x) := by
  refine ⟨?_, fun _ _ => Span.ofSeconds?_eq_some, fun p => ⟨?_, ?_, ?_⟩⟩
  · simp only [Settings.check_eq_ok, Settings.canBound_iff]
  · exact p.ofSeconds_eq_zero (by simp [Settings.bounds])
  · exact p.ofSeconds_eq_zero (by simp [Settings.bounds])
  · constructor
    · intro hzero
      obtain ⟨x, hx, hzero⟩ := Option.map_eq_some_iff.1 hzero
      exact ⟨x, hx, (p.ofSeconds_eq_zero (by simp [Settings.bounds, hx])).1 hzero⟩
    · rintro ⟨x, hx, hslight⟩
      obtain ⟨hfinite, hnonneg, hnearest, hlimit⟩ :=
        Span.ofSeconds?_eq_some.1 ((Span.ofSeconds?_zero hslight.2.1).2 hslight)
      exact RetryLimits.deadline_of_nearest hx hfinite hnonneg hnearest hlimit

/-- A tenth of a nanosecond is let through, and what is then waited for is nothing at all. -/
theorem check_passes_nothing :
    let s : Settings := { Settings.standard with timeoutSecs := ⟨0x3DDB7CDFD9D7BDBB⟩ }
    s.check = .ok () ∧ Span.ofSeconds? s.timeoutSecs = some .zero
      ∧ ∃ p : Publisher, p.settings = s ∧ p.settings.timeout = .zero := by
  intro s
  have hzero : Span.ofSeconds? s.timeoutSecs = some .zero := by decide +kernel
  have hcheck : s.check = .ok () := by
    rw [Settings.check_eq_ok]
    decide +kernel
  exact ⟨hcheck, hzero, ⟨s, hcheck⟩, rfl, by rw [Settings.timeout, Span.ofSeconds, hzero]; rfl⟩

end ConfirmedDelivery
