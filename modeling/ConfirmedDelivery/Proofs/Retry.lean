import ConfirmedDelivery.Retry
import Mathlib.Algebra.BigOperators.Intervals
import Mathlib.Tactic.SplitIfs

/-!
# What repeated rounds keep

A round gets what the round before it had refused. So what one round keeps, of the report so far,
the messages still to be sent and the state of the link, the whole call keeps (`rounds_ends`,
`run_ends`): it comes to its end with nothing left to send, or it stops at some point between two
rounds, or in the middle of one. Where it is known what each round is going to send, it is known
how the call ends and in which round (`run_accepted`, `run_exhausted`).
-/

namespace ConfirmedDelivery.Retry

variable {σ α : Type}

/-- How rounds end that keep `between`, of the report, the messages to be sent and the link, unless
one of them fails. -/
def Ends (between : Report → List α → σ → Prop) (failed : Failure → σ → Prop) :
    Option (Except Failure Report) → σ → Prop
  | some (.ok report), s => between report [] s
  | some (.error e), s => failed e s ∨ ∃ report pending, between report pending s
  | none, s => ∃ report pending, between report pending s

/-- How one round ends. -/
def EndsRound (between : Report → List α → σ → Prop) (failed : Failure → σ → Prop)
    (report : Report) : Except Failure (Outcome α) → σ → Prop
  | .ok outcome, s => between (report.absorb outcome) outcome.rejected s
  | .error e, s => failed e s

variable {limits : RetryLimits} {elapsed : σ → Span} {conduct : Conduct σ α}
  {between : Report → List α → σ → Prop} {failed : Failure → σ → Prop}

theorem rounds_ends
    (hround : ∀ report pending (j : Journaled σ), pending ≠ [] → between report pending j.state →
      EndsRound between failed report (conduct (report.rounds + 1) pending j).1
        (conduct (report.rounds + 1) pending j).2.state) :
    ∀ (budget : Nat) (report : Report) (pending : List α) (j : Journaled σ), pending ≠ [] →
      between report pending j.state →
      Ends between failed (rounds limits elapsed conduct budget report pending j).1
        (rounds limits elapsed conduct budget report pending j).2.state
  | 0, report, pending, _, _, h => ⟨report, pending, h⟩
  | budget + 1, report, pending, j, hne, h => by
    have hend := hround report pending j hne h
    unfold rounds
    rcases hconduct : conduct (report.rounds + 1) pending j with ⟨e | outcome, j'⟩
    · rw [hconduct] at hend
      exact .inl hend
    · rw [hconduct] at hend
      dsimp only [EndsRound] at hend ⊢
      split_ifs with hlen
      · rw [List.length_eq_zero_iff.1 hlen] at hend
        exact hend
      · split
        · exact .inr ⟨_, _, hend⟩
        · have hne : outcome.rejected ≠ [] := fun hnil => hlen (by rw [hnil]; rfl)
          exact rounds_ends hround budget _ _ _ hne hend

theorem state_finish (report : Report) (j : Journaled σ) : (finish report j).state = j.state := by
  unfold finish
  split_ifs <;> rfl

/-- What rounds keep a call keeps, unless it is about how long they took. -/
theorem run_ends {messages : List α} {j : Journaled σ}
    (hround : ∀ report pending (j : Journaled σ), pending ≠ [] → between report pending j.state →
      EndsRound between failed report (conduct (report.rounds + 1) pending j).1
        (conduct (report.rounds + 1) pending j).2.state)
    (htime : ∀ {report pending s} (time : Span), between report pending s →
      between { report with elapsed := time } pending s)
    (hstart : between Report.empty messages j.state) :
    Ends between failed (run limits elapsed conduct messages j).1
      (run limits elapsed conduct messages j).2.state := by
  have hends : Ends between failed
      (if messages.isEmpty then (some (.ok Report.empty), j)
        else rounds limits elapsed conduct roundLimit Report.empty messages j).1
      (if messages.isEmpty then (some (.ok Report.empty), j)
        else rounds limits elapsed conduct roundLimit Report.empty messages j).2.state := by
    split_ifs with hempty
    · rw [List.isEmpty_iff.1 hempty] at hstart
      exact hstart
    · exact rounds_ends hround _ _ _ _ (fun hnil => hempty (List.isEmpty_iff.2 hnil)) hstart
  unfold run
  generalize (if messages.isEmpty then _ else _ :
    Option (Except Failure Report) × Journaled σ) = out at hends ⊢
  obtain ⟨result, j'⟩ := out
  dsimp only at hends ⊢
  split
  · next report =>
    rw [state_finish]
    exact htime _ hends
  · exact hends

/-- When the first round fails there is no other one. -/
theorem run_of_fails {messages : List α} {j j' : Journaled σ} {e : Failure} (hne : messages ≠ [])
    (h : conduct 1 messages j = (.error e, j')) :
    run limits elapsed conduct messages j = (some (.error e), j') := by
  have hfirst : conduct (Report.empty.rounds + 1) messages j = (.error e, j') := h
  have hrounds (budget : Nat) : rounds limits elapsed conduct (budget + 1) Report.empty messages j
      = (some (.error e), j') := by
    unfold rounds
    rw [hfirst]
  have hlimit : roundLimit = roundLimit - 1 + 1 := by decide
  unfold run
  rw [if_neg fun hempty => hne (List.isEmpty_iff.1 hempty), hlimit, hrounds]

/-- How a call fails: as one of its rounds does, or because the messages that a round leaves may not
be sent again. -/
theorem rounds_fails
    (hround : ∀ report pending (j : Journaled σ), pending ≠ [] → between report pending j.state →
      EndsRound between failed report (conduct (report.rounds + 1) pending j).1
        (conduct (report.rounds + 1) pending j).2.state)
    (hrefused : ∀ {report pending s} time retries {e event}, between report pending s →
      refusal? limits time retries pending.length = some (e, event) → failed e s) :
    ∀ (budget : Nat) (report : Report) (pending : List α) (j : Journaled σ), pending ≠ [] →
      between report pending j.state → ∀ {e},
      (rounds limits elapsed conduct budget report pending j).1 = some (.error e) →
      failed e (rounds limits elapsed conduct budget report pending j).2.state
  | 0, _, _, _, _, _, _, he => by simp [rounds] at he
  | budget + 1, report, pending, j, hne, h, e, he => by
    have hend := hround report pending j hne h
    unfold rounds at he ⊢
    rcases hconduct : conduct (report.rounds + 1) pending j with ⟨e' | outcome, j'⟩
    · rw [hconduct] at hend he
      obtain rfl := Except.error.inj (Option.some.inj he)
      exact hend
    · rw [hconduct] at hend he
      dsimp only [EndsRound] at hend he ⊢
      split_ifs at he ⊢ with hlen
      · simp at he
      · split at he
        · rename_i hrefusal
          obtain rfl := Except.error.inj (Option.some.inj he)
          exact hrefused _ _ hend hrefusal
        · have hne : outcome.rejected ≠ [] := fun hnil => hlen (by rw [hnil]; rfl)
          exact rounds_fails hround hrefused budget _ _ (j'.note _) hne hend he

theorem run_fails {messages : List α} {j : Journaled σ} {e : Failure}
    (hround : ∀ report pending (j : Journaled σ), pending ≠ [] → between report pending j.state →
      EndsRound between failed report (conduct (report.rounds + 1) pending j).1
        (conduct (report.rounds + 1) pending j).2.state)
    (hrefused : ∀ {report pending s} time retries {e event}, between report pending s →
      refusal? limits time retries pending.length = some (e, event) → failed e s)
    (hstart : between Report.empty messages j.state)
    (he : (run limits elapsed conduct messages j).1 = some (.error e)) :
    failed e (run limits elapsed conduct messages j).2.state := by
  unfold run at he ⊢
  split_ifs at he ⊢ with hempty
  · simp at he
  · have hne : messages ≠ [] := fun hnil => hempty (List.isEmpty_iff.2 hnil)
    have hfails (he : (rounds limits elapsed conduct roundLimit Report.empty messages j).1
        = some (.error e)) := rounds_fails hround hrefused _ _ messages j hne hstart he
    generalize rounds limits elapsed conduct roundLimit Report.empty messages j = out at he hfails ⊢
    obtain ⟨result, j'⟩ := out
    dsimp only at he hfails ⊢
    split at he
    · simp at he
    · exact hfails he

/-- Nothing is given up unless there is a limit. -/
theorem refusal?_eq_some {elapsed : Span} {retries remaining : Nat} {e : Failure} {event : Event}
    (h : refusal? limits elapsed retries remaining = some (e, event)) :
    (e = .retriesExhausted retries remaining ∧ limits.maxRounds.isSome)
      ∨ (e = .deadlineExceeded elapsed remaining ∧ limits.deadlineSecs.isSome) := by
  unfold refusal? RetryLimits.deadline at h
  split_ifs at h with hmost hlate
  · obtain ⟨most, hmem, -⟩ := (Option.any_eq_true _ _).1 hmost
    exact .inl ⟨(Prod.mk.inj (Option.some.inj h)).1.symm, by simp [hmem]⟩
  · obtain ⟨time, hmem, -⟩ := (Option.any_eq_true _ _).1 hlate
    obtain ⟨secs, hsecs, -⟩ := Option.map_eq_some_iff.1 hmem
    exact .inr ⟨(Prod.mk.inj (Option.some.inj h)).1.symm, by simp [hsecs]⟩

section Alike

variable {τ : Type} {R : σ → τ → Prop} {elapsed' : τ → Span} {conduct' : Conduct τ α}

/-- Rounds of the same outcomes in related states make calls of the same results. -/
theorem rounds_alike (htime : ∀ {s t}, R s t → elapsed s = elapsed' t)
    (hconduct : ∀ number pending {j : Journaled σ} {k : Journaled τ}, pending ≠ [] →
      R j.state k.state →
      (conduct number pending j).1 = (conduct' number pending k).1
        ∧ R (conduct number pending j).2.state (conduct' number pending k).2.state) :
    ∀ (budget : Nat) (report : Report) {pending : List α} {j : Journaled σ} {k : Journaled τ},
      pending ≠ [] → R j.state k.state →
      (rounds limits elapsed conduct budget report pending j).1
          = (rounds limits elapsed' conduct' budget report pending k).1
        ∧ R (rounds limits elapsed conduct budget report pending j).2.state
          (rounds limits elapsed' conduct' budget report pending k).2.state
  | 0, _, _, _, _, _, h => ⟨rfl, h⟩
  | budget + 1, report, pending, j, k, hsome, h => by
    obtain ⟨hresult, hstate⟩ := hconduct (report.rounds + 1) pending hsome h
    unfold rounds
    rcases hj : conduct (report.rounds + 1) pending j with ⟨result, j'⟩
    rcases hk : conduct' (report.rounds + 1) pending k with ⟨result', k'⟩
    rw [hj, hk] at hresult hstate
    dsimp only at hresult hstate
    subst hresult
    cases result with
    | error e => exact ⟨rfl, hstate⟩
    | ok outcome =>
      dsimp only
      rw [htime hstate]
      split_ifs with hnone
      · exact ⟨rfl, hstate⟩
      · split
        · exact ⟨rfl, hstate⟩
        · exact rounds_alike htime hconduct budget _
            (fun hnil => hnone (congrArg List.length hnil)) hstate

theorem run_alike (htime : ∀ {s t}, R s t → elapsed s = elapsed' t)
    (hconduct : ∀ number pending {j : Journaled σ} {k : Journaled τ}, pending ≠ [] →
      R j.state k.state →
      (conduct number pending j).1 = (conduct' number pending k).1
        ∧ R (conduct number pending j).2.state (conduct' number pending k).2.state)
    (messages : List α) {j : Journaled σ} {k : Journaled τ} (h : R j.state k.state) :
    (run limits elapsed conduct messages j).1 = (run limits elapsed' conduct' messages k).1
      ∧ R (run limits elapsed conduct messages j).2.state
        (run limits elapsed' conduct' messages k).2.state := by
  have hrounds : (if messages.isEmpty then (some (.ok Report.empty), j)
        else rounds limits elapsed conduct roundLimit Report.empty messages j).1
      = (if messages.isEmpty then (some (.ok Report.empty), k)
        else rounds limits elapsed' conduct' roundLimit Report.empty messages k).1
      ∧ R (if messages.isEmpty then (some (.ok Report.empty), j)
          else rounds limits elapsed conduct roundLimit Report.empty messages j).2.state
        (if messages.isEmpty then (some (.ok Report.empty), k)
          else rounds limits elapsed' conduct' roundLimit Report.empty messages k).2.state := by
    split_ifs with hempty
    · exact ⟨rfl, h⟩
    · exact rounds_alike (R := R) htime hconduct roundLimit Report.empty
        (fun hnil => hempty (List.isEmpty_iff.2 hnil)) h
  unfold run
  generalize (if messages.isEmpty then (some (.ok Report.empty), j) else _ :
    Option (Except Failure Report) × Journaled σ) = out at hrounds ⊢
  generalize (if messages.isEmpty then (some (.ok Report.empty), k) else _ :
    Option (Except Failure Report) × Journaled τ) = out' at hrounds ⊢
  obtain ⟨result, j'⟩ := out
  obtain ⟨result', k'⟩ := out'
  obtain ⟨hresult, hstate⟩ := hrounds
  dsimp only at hresult hstate
  subst hresult
  dsimp only
  split
  · next report =>
    rw [htime hstate, state_finish, state_finish]
    exact ⟨rfl, hstate⟩
  · exact ⟨rfl, hstate⟩

end Alike

/-! ## Rounds that are known beforehand -/

section Turns

/-- What a report tells when rounds have sent the first `k` turns, each of them having refused the
turn after it and accepted the rest. -/
structure Tells (turn : Nat → List α) (k : Nat) (report : Report) : Prop where
  published : report.published = ∑ i ∈ Finset.range k, (turn i).length
  confirmed : report.confirmed + (turn k).length = (turn 0).length
  nacked : report.nacked = ∑ i ∈ Finset.Ico 1 (k + 1), (turn i).length
  rounds : report.rounds = k

/-- Rounds send one turn after another and never fail. -/
def Follows (conduct : Conduct σ α) (turn : Nat → List α) (rest : Nat → σ → Prop) : Prop :=
  ∀ i (j : Journaled σ), turn i ≠ [] → rest i j.state → ∃ outcome j',
    conduct (i + 1) (turn i) j = (.ok outcome, j') ∧ rest (i + 1) j'.state
      ∧ outcome.published = (turn i).length ∧ outcome.rejected = turn (i + 1)
      ∧ outcome.confirmed + (turn (i + 1)).length = (turn i).length

variable {turn : Nat → List α} {rest : Nat → σ → Prop}

theorem tells_empty : Tells turn 0 Report.empty where
  published := rfl
  confirmed := Nat.zero_add _
  nacked := rfl
  rounds := rfl

theorem Tells.absorb {k : Nat} {report : Report} {outcome : Outcome α} (h : Tells turn k report)
    (hpublished : outcome.published = (turn k).length) (hrejected : outcome.rejected = turn (k + 1))
    (hconfirmed : outcome.confirmed + (turn (k + 1)).length = (turn k).length) :
    Tells turn (k + 1) (report.absorb outcome) where
  published := by
    rw [Finset.sum_range_succ, ← h.published, ← hpublished]
    rfl
  confirmed := by
    have := h.confirmed
    change report.confirmed + outcome.confirmed + (turn (k + 1)).length = _
    omega
  nacked := by
    rw [Finset.sum_Ico_succ_top (Nat.le_add_left 1 k), ← h.nacked, ← hrejected]
    rfl
  rounds := congrArg (· + 1) h.rounds

/-- When nothing is left to send, every message was accepted, and refused were the turns after the
first one. -/
theorem Tells.last {m : Nat} {report : Report} (h : Tells turn m report) (hlast : turn m = []) :
    report.confirmed = (turn 0).length
      ∧ report.nacked = ∑ i ∈ Finset.Ico 1 m, (turn i).length := by
  constructor
  · have hconfirmed := h.confirmed
    rwa [hlast] at hconfirmed
  · rw [h.nacked]
    cases m with
    | zero => rfl
    | succ m => rw [Finset.sum_Ico_succ_top (Nat.le_add_left 1 m), hlast, List.length_nil, add_zero]

theorem refusal?_of_more {elapsed : Span} {retries remaining : Nat}
    (hdeadline : limits.deadlineSecs = none) (hmore : ∀ most ∈ limits.maxRounds, retries < most) :
    refusal? limits elapsed retries remaining = none := by
  have hrounds : limits.maxRounds.any (fun most => decide (most ≤ retries)) = false := by
    rcases hmost : limits.maxRounds with _ | most
    · rfl
    · exact decide_eq_false (Nat.not_le.2 (hmore most hmost))
  unfold refusal? RetryLimits.deadline
  rw [hrounds, hdeadline]
  rfl

theorem refusal?_of_most {elapsed : Span} {most remaining : Nat}
    (hmost : limits.maxRounds = some most) :
    refusal? limits elapsed most remaining
      = some (.retriesExhausted most remaining, .retriesExhausted most remaining) := by
  unfold refusal?
  rw [hmost, if_pos]
  exact decide_eq_true (Nat.le_refl most)

variable (limits elapsed)

/-- One round more: with nothing refused the call comes to its end, and otherwise it ends or goes
on as the limits have it. -/
theorem rounds_step (budget : Nat) (hfollows : Follows conduct turn rest) {k : Nat}
    {report : Report} {j : Journaled σ} (hne : turn k ≠ []) (hrest : rest k j.state)
    (htells : Tells turn k report) :
    ∃ report' j', Tells turn (k + 1) report' ∧ rest (k + 1) j'.state
      ∧ (turn (k + 1) = [] →
        rounds limits elapsed conduct (budget + 1) report (turn k) j = (some (.ok report'), j'))
      ∧ (turn (k + 1) ≠ [] → ∀ failure event,
        refusal? limits (elapsed j'.state) k (turn (k + 1)).length = some (failure, event) →
        rounds limits elapsed conduct (budget + 1) report (turn k) j
          = (some (.error failure), j'.note event))
      ∧ (turn (k + 1) ≠ [] → refusal? limits (elapsed j'.state) k (turn (k + 1)).length = none →
        ∃ event, rounds limits elapsed conduct (budget + 1) report (turn k) j
          = rounds limits elapsed conduct budget report' (turn (k + 1)) (j'.note event)) := by
  obtain ⟨outcome, j', hconduct, hrest', hpublished, hrejected, hconfirmed⟩ :=
    hfollows k j hne hrest
  refine ⟨report.absorb outcome, j', htells.absorb hpublished hrejected hconfirmed, hrest',
    ?_, ?_, ?_⟩
  · intro hnil
    rw [rounds, htells.rounds, hconduct]
    dsimp only
    rw [if_pos (by rw [hrejected, hnil, List.length_nil])]
  · intro hleft failure event hrefusal
    rw [rounds, htells.rounds, hconduct]
    dsimp only
    rw [hrejected, if_neg (fun hzero => hleft (List.length_eq_zero_iff.1 hzero)), hrefusal]
  · intro hleft hrefusal
    rw [rounds, htells.rounds, hconduct]
    dsimp only
    rw [hrejected, if_neg (fun hzero => hleft (List.length_eq_zero_iff.1 hzero)), hrefusal]
    exact ⟨_, rfl⟩

/-- As long as something is refused and may be sent again, the rounds go on. -/
theorem rounds_reach (hfollows : Follows conduct turn rest) (hdeadline : limits.deadlineSecs = none)
    {budget : Nat} {j : Journaled σ} (hrest : rest 0 j.state) :
    ∀ k ≤ budget, (∀ i ≤ k, turn i ≠ []) → (∀ most ∈ limits.maxRounds, k ≤ most) →
      ∃ report j', Tells turn k report ∧ rest k j'.state
        ∧ rounds limits elapsed conduct budget Report.empty (turn 0) j
          = rounds limits elapsed conduct (budget - k) report (turn k) j'
  | 0, _, _, _ => ⟨Report.empty, j, tells_empty, hrest, rfl⟩
  | k + 1, hk, hne, hmost => by
    obtain ⟨report, j₁, htells, hrest₁, heq⟩ := rounds_reach hfollows hdeadline hrest k
      (Nat.le_of_succ_le hk) (fun i hi => hne i (Nat.le_succ_of_le hi))
      fun most h => Nat.le_of_succ_le (hmost most h)
    obtain ⟨report', j', htells', hrest', -, -, hagain⟩ := rounds_step limits elapsed
      (budget - (k + 1)) hfollows (hne k (Nat.le_succ k)) hrest₁ htells
    have hbudget : budget - k = budget - (k + 1) + 1 := by omega
    obtain ⟨event, hstep⟩ := hagain (hne (k + 1) (Nat.le_refl _)) (refusal?_of_more hdeadline hmost)
    exact ⟨report', j'.note event, htells', hrest', by rw [heq, hbudget, hstep]⟩

/-- With nothing refused in the last of `m` rounds, all of which may be made, the call ends well. -/
theorem run_accepted (hfollows : Follows conduct turn rest) (hdeadline : limits.deadlineSecs = none)
    {m : Nat} {j : Journaled σ} (hrest : rest 0 j.state) (hlast : turn m = [])
    (hne : ∀ i < m, turn i ≠ []) (hmost : ∀ most ∈ limits.maxRounds, m ≤ most + 1)
    (hlimit : m ≤ roundLimit) :
    ∃ report, Tells turn m report ∧ rest m (run limits elapsed conduct (turn 0) j).2.state
      ∧ (run limits elapsed conduct (turn 0) j).1 = some (.ok { report with
        elapsed := elapsed (run limits elapsed conduct (turn 0) j).2.state }) := by
  suffices h : ∃ report j', Tells turn m report ∧ rest m j'.state
      ∧ (if (turn 0).isEmpty then (some (.ok Report.empty), j)
        else rounds limits elapsed conduct roundLimit Report.empty (turn 0) j)
          = (some (.ok report), j') by
    obtain ⟨report, j', htells, hrest', heq⟩ := h
    refine ⟨report, htells, ?_, ?_⟩
    · unfold run
      rw [heq]
      dsimp only
      rwa [state_finish]
    · unfold run
      rw [heq]
      dsimp only
      rw [state_finish]
  cases m with
  | zero => exact ⟨Report.empty, j, tells_empty, hrest, by rw [hlast]; rfl⟩
  | succ k =>
    obtain ⟨report, j₁, htells, hrest₁, heq⟩ := rounds_reach limits elapsed hfollows hdeadline hrest
      k (Nat.le_of_succ_le hlimit) (fun i hi => hne i (Nat.lt_succ_of_le hi))
      fun most h => Nat.le_of_succ_le_succ (hmost most h)
    obtain ⟨report', j', htells', hrest', hdone, -, -⟩ := rounds_step limits elapsed
      (roundLimit - (k + 1)) hfollows (hne k (Nat.lt_succ_self k)) hrest₁ htells
    have hbudget : roundLimit - k = roundLimit - (k + 1) + 1 := by omega
    have hsome : ¬ (turn 0).isEmpty = true := fun hempty =>
      hne 0 (Nat.succ_pos k) (List.isEmpty_iff.1 hempty)
    exact ⟨report', j', htells', hrest', by rw [if_neg hsome, heq, hbudget, hdone hlast]⟩

/-- With messages refused in the last round that may be made, the call ends there. -/
theorem run_exhausted (hfollows : Follows conduct turn rest) (hdeadline : limits.deadlineSecs = none)
    {most : Nat} {j : Journaled σ} (hrest : rest 0 j.state) (hne : ∀ i ≤ most + 1, turn i ≠ [])
    (hmost : limits.maxRounds = some most) (hlimit : most < roundLimit) :
    rest (most + 1) (run limits elapsed conduct (turn 0) j).2.state
      ∧ (run limits elapsed conduct (turn 0) j).1
        = some (.error (.retriesExhausted most (turn (most + 1)).length)) := by
  obtain ⟨report, j₁, htells, hrest₁, heq⟩ := rounds_reach limits elapsed hfollows hdeadline hrest
    most (Nat.le_of_lt hlimit) (fun i hi => hne i (Nat.le_succ_of_le hi)) fun most' h => by
      rw [hmost] at h
      exact Nat.le_of_eq (Option.some.inj h)
  obtain ⟨report', j', -, hrest', -, hrefused, -⟩ := rounds_step limits elapsed
    (roundLimit - (most + 1)) hfollows (hne most (Nat.le_succ most)) hrest₁ htells
  have hbudget : roundLimit - most = roundLimit - (most + 1) + 1 := by omega
  have hsome : ¬ (turn 0).isEmpty = true := fun hempty =>
    hne 0 (Nat.zero_le _) (List.isEmpty_iff.1 hempty)
  unfold run
  rw [if_neg hsome, heq, hbudget,
    hrefused (hne (most + 1) (Nat.le_refl _)) _ _ (refusal?_of_most hmost)]
  exact ⟨hrest', rfl⟩

end Turns

end ConfirmedDelivery.Retry
