import ConfirmedDelivery.Proofs.Retry

/-!
# The attempts of a call

A call is told by its attempts: which rounds it conducted, with what messages, how each of them
ended, and how long the call had lasted by then. They are numbered from one, the first one gets the
messages of the call and each later one what the attempt before it had refused (`Succession`), and
the last one decides what the call comes to (`Decides`). So it is for every way to conduct rounds,
whatever it depends on and whatever it reports (`run_attempts`).
-/

namespace ConfirmedDelivery.Retry

variable {σ α : Type}

/-- A round of a call, and how long the call had lasted when it ended. -/
structure Attempt (α : Type) where
  number : Nat
  given : List α
  result : Except Failure (Outcome α)
  elapsed : Span

/-- A state together with the attempts made so far. -/
structure Attempted (σ α : Type) where
  state : σ
  attempts : List (Attempt α)

/-- Conducts rounds and writes them down. -/
def attempting (elapsed : σ → Span) (conduct : Conduct σ α) : Conduct (Attempted σ α) α :=
  fun number given j =>
    let (result, k) := conduct number given ⟨j.state.state, j.journal⟩
    (result, ⟨⟨k.state, j.state.attempts ++ [⟨number, given, result, elapsed k.state⟩]⟩, k.journal⟩)

/-- The attempt left these messages, and they may be sent again. -/
def Attempt.Leaves (limits : RetryLimits) (a : Attempt α) (rest : List α) : Prop :=
  ∃ outcome, a.result = .ok outcome ∧ outcome.rejected = rest
    ∧ (∀ most ∈ limits.maxRounds, a.number ≤ most)
    ∧ ∀ deadline ∈ limits.deadline, a.elapsed.nanos < deadline.nanos

/-- Attempts after the first `k` ones: they are numbered on, the first one was given `messages` and
each later one what the attempt before it left, and none was given nothing. -/
structure Succession (limits : RetryLimits) (k : Nat) (messages : List α)
    (attempts : List (Attempt α)) : Prop where
  numbers : attempts.map Attempt.number = List.range' (k + 1) attempts.length
  first : ∀ a ∈ attempts.head?, a.given = messages
  nonempty : ∀ a ∈ attempts, a.given ≠ []
  leaves : attempts.IsChain fun a b => a.Leaves limits b.given

/-- What the attempts report in sum. -/
def total (count : Outcome α → Nat) : List (Attempt α) → Nat
  | [] => 0
  | a :: rest => (a.result.toOption.map count).getD 0 + total count rest

/-- A report that these attempts were added to. -/
def Adds (before after : Report) (attempts : List (Attempt α)) : Prop :=
  after.published = before.published + total Outcome.published attempts
    ∧ after.confirmed = before.confirmed + total Outcome.confirmed attempts
    ∧ after.nacked = before.nacked + total (fun o => o.rejected.length) attempts
    ∧ after.rounds = before.rounds + attempts.length

/-- What comes of a call whose last attempt is this one: its failure; a report of all attempts, if it
refused nothing; or what is told of the messages that it left, the number of rounds being looked at
before the deadline. A call that could go on has made too many rounds to number another one. -/
def Decides (limits : RetryLimits) (before : Report) (attempts : List (Attempt α))
    (last : Attempt α) (result : Option (Except Failure Report)) : Prop :=
  match last.result with
  | .error e => result = some (.error e)
  | .ok outcome =>
    let remaining := outcome.rejected.length
    (outcome.rejected = [] → ∃ report, result = some (.ok report) ∧ Adds before report attempts)
      ∧ (outcome.rejected ≠ [] →
        (∀ most ∈ limits.maxRounds, most < last.number →
          result = some (.error (.retriesExhausted (last.number - 1) remaining)))
        ∧ ((∀ most ∈ limits.maxRounds, last.number ≤ most) →
          (∀ deadline ∈ limits.deadline, deadline.nanos ≤ last.elapsed.nanos →
            result = some (.error (.deadlineExceeded last.elapsed remaining)))
          ∧ ((∀ deadline ∈ limits.deadline, last.elapsed.nanos < deadline.nanos) → result = none)))

/-! ## One attempt after another -/

section Rounds

variable {limits : RetryLimits} {elapsed : σ → Span} {conduct : Conduct σ α}

theorem refusal?_cases (limits : RetryLimits) (time : Span) (retries remaining : Nat) :
    ((∃ most ∈ limits.maxRounds, most ≤ retries)
        ∧ refusal? limits time retries remaining
          = some (.retriesExhausted retries remaining, .retriesExhausted retries remaining))
      ∨ (∀ most ∈ limits.maxRounds, retries < most)
        ∧ (((∃ deadline ∈ limits.deadline, deadline.nanos ≤ time.nanos)
            ∧ refusal? limits time retries remaining
              = some (.deadlineExceeded time remaining, .deadlineExceeded time remaining))
          ∨ (∀ deadline ∈ limits.deadline, time.nanos < deadline.nanos)
            ∧ refusal? limits time retries remaining = none) := by
  unfold refusal?
  split_ifs with hmost hlate
  · obtain ⟨most, hmem, hle⟩ := (Option.any_eq_true _ _).1 hmost
    exact .inl ⟨⟨most, hmem, of_decide_eq_true hle⟩, rfl⟩
  · refine .inr ⟨fun most hmem => ?_, .inl ⟨?_, rfl⟩⟩
    · exact Nat.lt_of_not_le fun hle => hmost ((Option.any_eq_true _ _).2 ⟨most, hmem, by simpa⟩)
    · obtain ⟨deadline, hmem, hle⟩ := (Option.any_eq_true _ _).1 hlate
      exact ⟨deadline, hmem, of_decide_eq_true hle⟩
  · refine .inr ⟨fun most hmem => ?_, .inr ⟨fun deadline hmem => ?_, rfl⟩⟩
    · exact Nat.lt_of_not_le fun hle => hmost ((Option.any_eq_true _ _).2 ⟨most, hmem, by simpa⟩)
    · exact Nat.lt_of_not_le fun hle => hlate ((Option.any_eq_true _ _).2 ⟨deadline, hmem, by simpa⟩)

theorem Succession.single (limits : RetryLimits) {k : Nat} {a : Attempt α} (hnumber : a.number = k + 1)
    (hne : a.given ≠ []) : Succession limits k a.given [a] where
  numbers := congrArg (fun n => [n]) hnumber
  first b hb := by rw [Option.some.inj hb]
  nonempty b hb := by rwa [List.mem_singleton.1 hb]
  leaves := .singleton a

/-- An attempt before those that get what it left. -/
theorem Succession.cons {k : Nat} {a : Attempt α} {rest : List α} {attempts : List (Attempt α)}
    (h : Succession limits (k + 1) rest attempts) (hnumber : a.number = k + 1) (hne : a.given ≠ [])
    (hleaves : a.Leaves limits rest) : Succession limits k a.given (a :: attempts) where
  numbers := by rw [List.map_cons, h.numbers, hnumber, List.length_cons, List.range'_succ]
  first b hb := by rw [Option.some.inj hb]
  nonempty := List.forall_mem_cons.2 ⟨hne, h.nonempty⟩
  leaves := by
    cases attempts with
    | nil => exact .singleton a
    | cons b attempts =>
      refine List.isChain_cons_cons.2 ⟨?_, h.leaves⟩
      rwa [h.first b rfl]

theorem Adds.cons {before after : Report} {a : Attempt α} {outcome : Outcome α}
    {attempts : List (Attempt α)} (h : Adds (before.absorb outcome) after attempts)
    (hresult : a.result = .ok outcome) : Adds before after (a :: attempts) := by
  have htotal : ∀ count, total count (a :: attempts) = count outcome + total count attempts :=
    fun count => by rw [total, hresult]; rfl
  obtain ⟨hpublished, hconfirmed, hnacked, hrounds⟩ := h
  unfold Adds
  simp only [htotal, List.length_cons, hpublished, hconfirmed, hnacked, hrounds, Report.absorb]
  omega

theorem Decides.cons {before : Report} {a last : Attempt α} {outcome : Outcome α}
    {attempts : List (Attempt α)} {result : Option (Except Failure Report)}
    (h : Decides limits (before.absorb outcome) attempts last result)
    (hresult : a.result = .ok outcome) : Decides limits before (a :: attempts) last result := by
  unfold Decides at h ⊢
  split at h
  · exact h
  · refine ⟨fun hnil => ?_, h.2⟩
    obtain ⟨report, hreport, hadds⟩ := h.1 hnil
    exact ⟨report, hreport, hadds.cons hresult⟩

/-- What stops a call after an attempt that left messages, and what lets it go on. -/
theorem decides_of_refusal (limits : RetryLimits) (before : Report) {a : Attempt α} {outcome : Outcome α}
    (hresult : a.result = .ok outcome) (hnumber : a.number = before.rounds + 1)
    (hne : outcome.rejected ≠ []) :
    (∃ failure event, refusal? limits a.elapsed before.rounds outcome.rejected.length
        = some (failure, event) ∧ Decides limits before [a] a (some (.error failure)))
      ∨ refusal? limits a.elapsed before.rounds outcome.rejected.length = none
        ∧ a.Leaves limits outcome.rejected ∧ Decides limits before [a] a none := by
  have hretries : a.number - 1 = before.rounds := by omega
  unfold Decides Attempt.Leaves
  rw [hresult]
  dsimp only
  rw [hretries]
  rcases refusal?_cases limits a.elapsed before.rounds outcome.rejected.length with
    ⟨⟨most, hmost, hle⟩, heq⟩ | ⟨hmore, ⟨⟨deadline, hdeadline, hlate⟩, heq⟩ | ⟨htime, heq⟩⟩
  · refine .inl ⟨_, _, heq, fun hnil => absurd hnil hne, fun _ => ⟨fun _ _ _ => rfl, fun hmore => ?_⟩⟩
    have := hmore most hmost
    omega
  · refine .inl ⟨_, _, heq, fun hnil => absurd hnil hne, fun _ => ⟨fun most hmost hlt => ?_,
      fun _ => ⟨fun _ _ _ => rfl, fun htime => ?_⟩⟩⟩
    · have := hmore most hmost
      omega
    · have := htime deadline hdeadline
      omega
  · refine .inr ⟨heq, ⟨outcome, rfl, rfl, fun most hmost => ?_, htime⟩, fun hnil => absurd hnil hne,
      fun _ => ⟨fun most hmost hlt => ?_, fun _ => ⟨fun deadline hdeadline hlate => ?_, fun _ => rfl⟩⟩⟩
    · have := hmore most hmost
      omega
    · have := hmore most hmost
      omega
    · have := htime deadline hdeadline
      omega

/-- The rounds of a call that has `budget` left, as the rounds that were written down tell it. -/
theorem rounds_attempts (limits : RetryLimits) (elapsed : σ → Span) (conduct : Conduct σ α) :
    ∀ (budget : Nat) (report : Report) (pending : List α) (j : Journaled σ)
      (log : List (Attempt α)), pending ≠ [] →
    let plain := rounds limits elapsed conduct budget report pending j
    ∃ attempts,
      rounds limits (fun s => elapsed s.state) (attempting elapsed conduct) budget report pending
          ⟨⟨j.state, log⟩, j.journal⟩
        = (plain.1, ⟨⟨plain.2.state, log ++ attempts⟩, plain.2.journal⟩)
      ∧ Succession limits report.rounds pending attempts
      ∧ (attempts = [] → budget = 0)
      ∧ (∀ last ∈ attempts.getLast?, Decides limits report attempts last plain.1)
      ∧ attempts.length ≤ budget ∧ (plain.1 = none → attempts.length = budget)
  | 0, _, _, _, _, _ => by
    refine ⟨[], ?_, ⟨rfl, ?_, ?_, .nil⟩, fun _ => rfl, ?_, Nat.le_refl 0, fun _ => rfl⟩
    · rw [List.append_nil]
      rfl
    all_goals simp
  | budget + 1, report, pending, j, log, hne => by
    intro plain
    rcases hconduct : conduct (report.rounds + 1) pending j with ⟨result, j'⟩
    let a : Attempt α := ⟨report.rounds + 1, pending, result, elapsed j'.state⟩
    have hattempt : attempting elapsed conduct (report.rounds + 1) pending
        ⟨⟨j.state, log⟩, j.journal⟩ = (result, ⟨⟨j'.state, log ++ [a]⟩, j'.journal⟩) := by
      unfold attempting
      rw [show (⟨j.state, j.journal⟩ : Journaled σ) = j from rfl, hconduct]
    -- whatever ends the call now, this attempt is its only one
    have only (r : Except Failure Report) (hdecides : Decides limits report [a] a (some r)) :
        ([a] = [] → budget + 1 = 0) ∧ (∀ last ∈ [a].getLast?, Decides limits report [a] last (some r))
          ∧ [a].length ≤ budget + 1 ∧ (some r = none → [a].length = budget + 1) := by
      refine ⟨fun h => absurd h (List.cons_ne_nil _ _), fun last hlast => ?_,
        Nat.le_add_left 1 budget, fun h => absurd h (Option.some_ne_none _)⟩
      obtain rfl := Option.some.inj hlast
      exact hdecides
    unfold plain rounds
    rw [hattempt, hconduct]
    cases result with
    | error e => exact ⟨[a], rfl, .single limits (a := a) rfl hne, only _ rfl⟩
    | ok outcome =>
      dsimp only
      by_cases hnil : outcome.rejected = []
      · rw [if_pos (by rw [hnil]; rfl), if_pos (by rw [hnil]; rfl)]
        refine ⟨[a], rfl, .single limits (a := a) rfl hne, only _ ⟨fun _ => ⟨_, rfl, ?_⟩, fun hleft =>
          absurd hnil hleft⟩⟩
        exact Adds.cons (a := a) ⟨rfl, rfl, rfl, rfl⟩ rfl
      have hlen : outcome.rejected.length ≠ 0 := fun hzero => hnil (List.length_eq_zero_iff.1 hzero)
      rw [if_neg hlen, if_neg hlen]
      rcases decides_of_refusal limits report (a := a) rfl rfl hnil with
        ⟨failure, event, heq, hdecides⟩ | ⟨heq, hleaves, hstops⟩
      · rw [show refusal? limits (elapsed j'.state) report.rounds outcome.rejected.length = _ from heq]
        exact ⟨[a], rfl, .single limits (a := a) rfl hne, only _ hdecides⟩
      · rw [show refusal? limits (elapsed j'.state) report.rounds outcome.rejected.length = _ from heq]
        dsimp only
        obtain ⟨attempts, hrounds, hsuccession, hsome, hlast, hle, hnone⟩ :=
          rounds_attempts limits elapsed conduct budget (report.absorb outcome) outcome.rejected
            (j'.note (.republishing ((report.absorb outcome).rounds + 1) outcome.rejected.length))
            (log ++ [a]) hnil
        refine ⟨a :: attempts, ?_, hsuccession.cons rfl hne hleaves,
          fun h => absurd h (List.cons_ne_nil _ _), ?_, Nat.succ_le_succ hle,
          fun hplain => congrArg (· + 1) (hnone hplain)⟩
        · rw [List.append_assoc] at hrounds
          exact hrounds
        · intro last hmem
          cases attempts with
          | nil =>
            obtain rfl := Option.some.inj hmem
            obtain rfl := hsome rfl
            exact hstops
          | cons b attempts =>
            rw [List.getLast?_cons_cons] at hmem
            exact (hlast last hmem).cons rfl

end Rounds

/-! ## The attempts of a whole call -/

section Run

variable {limits : RetryLimits} {k : Nat} {messages : List α} {attempts : List (Attempt α)}

/-- Whatever attempt is followed by another one left what that one was given. -/
theorem Succession.leaves_getElem (h : Succession limits k messages attempts) {i : Nat}
    (hi : i + 1 < attempts.length) :
    attempts[i].number = k + 1 + i ∧ attempts[i].Leaves limits attempts[i + 1].given := by
  refine ⟨?_, List.isChain_iff_getElem.1 h.leaves i hi⟩
  have hnumber : (attempts.map Attempt.number)[i]? = (List.range' (k + 1) attempts.length)[i]? := by
    rw [h.numbers]
  rw [List.getElem?_map, List.getElem?_eq_getElem (Nat.lt_of_succ_lt hi),
    List.getElem?_range' (Nat.lt_of_succ_lt hi), Nat.one_mul] at hnumber
  exact Option.some.inj hnumber

theorem Succession.number_getLast (h : Succession limits k messages attempts) {last : Attempt α}
    (hlast : last ∈ attempts.getLast?) : last.number = k + attempts.length := by
  have hnumber : (attempts.map Attempt.number).getLast? = some last.number := by
    rw [List.getLast?_map, hlast]
    rfl
  rw [h.numbers, List.getLast?_range'] at hnumber
  split_ifs at hnumber with hzero
  have := Option.some.inj hnumber
  omega

theorem Succession.length_le (h : Succession limits 0 messages attempts) {most : Nat}
    (hmost : most ∈ limits.maxRounds) : attempts.length ≤ most + 1 := by
  by_contra hmore
  obtain ⟨hnumber, _, -, -, hle, -⟩ := h.leaves_getElem (i := attempts.length - 2) (by omega)
  have := hle most hmost
  omega

theorem Succession.length_le_one (h : Succession limits 0 messages attempts) {deadline : Span}
    (hdeadline : deadline ∈ limits.deadline) (hzero : deadline.nanos = 0) :
    attempts.length ≤ 1 := by
  by_contra hmore
  obtain ⟨-, _, -, -, -, htime⟩ := h.leaves_getElem (i := 0) (by omega)
  have := htime deadline hdeadline
  omega

/-- Seconds that make no span: not a number or infinite, below zero, or too many. -/
theorem ofSeconds_nanos {secs : Binary64}
    (h : secs.isNaN ∨ secs.isInfinite ∨ secs.rank < 0
      ∨ Span.limit ≤ roundDiv (secs.units * 1000000000) (twoPow 1074)) :
    (Span.ofSeconds secs).nanos = 0 := by
  suffices hnone : Span.ofSeconds? secs = none by
    rw [Span.ofSeconds, hnone]
    rfl
  unfold Span.ofSeconds?
  dsimp only
  split_ifs with hfit hlimit
  · rw [Bool.and_eq_true, Binary64.isFinite, decide_eq_true_eq, Bool.not_eq_true',
      Bool.and_eq_false_iff] at hfit
    obtain ⟨hfinite, hsign⟩ := hfit
    rcases h with hnan | hinfinite | hrank | hmany
    · exact absurd (of_decide_eq_true hnan) (Nat.not_lt_of_gt hfinite)
    · exact absurd (eq_of_beq hinfinite) (Nat.ne_of_lt hfinite)
    · unfold Binary64.rank at hrank
      split_ifs at hrank with hnegative
      · have hmagnitude := hsign.resolve_left (by rw [hnegative]; nofun)
        have hzero : secs.magnitude = 0 := of_not_not fun hne => by
          rw [bne_iff_ne.2 hne] at hmagnitude
          cases hmagnitude
        omega
      · omega
    · exact absurd hmany (Nat.not_le_of_lt hlimit)
  · rfl
  · rfl

/-- The report with the time taken from the clock adds up as it did before. -/
theorem Decides.timed {before report : Report} {last : Attempt α} (time : Span)
    (h : Decides limits before attempts last (some (.ok report))) :
    Decides limits before attempts last (some (.ok { report with elapsed := time })) := by
  unfold Decides at h ⊢
  split at h
  · cases h
  · refine ⟨fun hnil => ?_, fun hne => ?_⟩
    · obtain ⟨_, heq, hadds⟩ := h.1 hnil
      obtain rfl := Except.ok.inj (Option.some.inj heq)
      exact ⟨_, rfl, hadds⟩
    · obtain ⟨hmost, hmore⟩ := h.2 hne
      refine ⟨fun most hmem hlt => ?_, fun hall => ⟨fun deadline hmem hlate => ?_, fun htime => ?_⟩⟩
      · cases hmost most hmem hlt
      · cases (hmore hall).1 deadline hmem hlate
      · cases (hmore hall).2 htime

/-- A call and the attempts that were written down in it. -/
theorem run_noted (limits : RetryLimits) (elapsed : σ → Span) (conduct : Conduct σ α)
    (messages : List α) (j : Journaled σ) :
    let call := run limits elapsed conduct messages j
    ∃ attempts,
      run limits (fun s => elapsed s.state) (attempting elapsed conduct) messages
          ⟨⟨j.state, []⟩, j.journal⟩
        = (call.1, ⟨⟨call.2.state, attempts⟩, call.2.journal⟩)
      ∧ Succession limits 0 messages attempts
      ∧ (attempts = [] ↔ messages = [])
      ∧ (messages = [] →
        call.1 = some (.ok { Report.empty with elapsed := elapsed call.2.state }))
      ∧ (∀ last ∈ attempts.getLast?, Decides limits Report.empty attempts last call.1)
      ∧ (∀ report, call.1 = some (.ok report) → report.elapsed = elapsed call.2.state)
      ∧ attempts.length ≤ roundLimit ∧ (call.1 = none → attempts.length = roundLimit) := by
  intro call
  by_cases hmessages : messages = []
  · subst hmessages
    refine ⟨[], rfl, ⟨rfl, ?_, ?_, .nil⟩, iff_of_true rfl rfl, fun _ => rfl, ?_, ?_, ?_, nofun⟩
    all_goals simp [call, run, state_finish]
  · obtain ⟨attempts, hrounds, hsuccession, hnil, hlast, hle, hnone⟩ :=
      rounds_attempts limits elapsed conduct roundLimit Report.empty messages j []
        hmessages
    have hsome : attempts ≠ [] := fun hempty => absurd (hnil hempty) (by decide)
    have hnonempty : ¬ messages.isEmpty = true := fun h => hmessages (List.isEmpty_iff.1 h)
    refine ⟨attempts, ?_⟩
    unfold call run
    rw [if_neg hnonempty, if_neg hnonempty, hrounds]
    generalize rounds limits elapsed conduct roundLimit Report.empty messages j = out
      at hlast hnone ⊢
    obtain ⟨result, j'⟩ := out
    have hends : attempts = [] ↔ messages = [] := iff_of_false hsome hmessages
    rcases result with _ | e | report
    · exact ⟨rfl, hsuccession, hends, fun h => absurd h hmessages, hlast, nofun, hle, hnone⟩
    · exact ⟨rfl, hsuccession, hends, fun h => absurd h hmessages, hlast, nofun, hle, nofun⟩
    · dsimp only
      refine ⟨?_, hsuccession, hends, fun h => absurd h hmessages,
        fun last hmem => (hlast last hmem).timed (elapsed j'.state), ?_, hle, nofun⟩
      · unfold finish
        split_ifs <;> rfl
      · rintro report' heq
        obtain rfl := Except.ok.inj (Option.some.inj heq)
        rw [state_finish]

/-- A call is its attempts, one after another, and what the last of them decides. -/
theorem run_attempts (limits : RetryLimits) (elapsed : σ → Span) (conduct : Conduct σ α)
    (messages : List α) (j : Journaled σ) :
    let call := run limits elapsed conduct messages j
    let noted := run limits (fun s => elapsed s.state) (attempting elapsed conduct) messages
      ⟨⟨j.state, []⟩, j.journal⟩
    let attempts := noted.2.state.attempts
    (noted.1 = call.1 ∧ noted.2.state.state = call.2.state ∧ noted.2.journal = call.2.journal)
      ∧ Succession limits 0 messages attempts
      ∧ (attempts = [] ↔ messages = [])
      ∧ (messages = [] →
        call.1 = some (.ok { Report.empty with elapsed := elapsed call.2.state }))
      ∧ (∀ last ∈ attempts.getLast?, Decides limits Report.empty attempts last call.1)
      ∧ (∀ report, call.1 = some (.ok report) → report.elapsed = elapsed call.2.state)
      ∧ (∀ most ∈ limits.maxRounds, attempts.length ≤ most + 1
        ∧ (attempts.length = most + 1 → ∀ last ∈ attempts.getLast?, ∀ outcome,
          last.result = .ok outcome → outcome.rejected ≠ [] →
            call.1 = some (.error (.retriesExhausted most outcome.rejected.length))))
      ∧ (∀ secs ∈ limits.deadlineSecs,
        (secs.isNaN ∨ secs.isInfinite ∨ secs.rank < 0
          ∨ Span.limit ≤ roundDiv (secs.units * 1000000000) (twoPow 1074)) →
        attempts.length ≤ 1)
      ∧ attempts.length ≤ roundLimit ∧ (call.1 = none → attempts.length = roundLimit) := by
  obtain ⟨attempts, hnoted, hsuccession, hnil, hempty, hlast, helapsed, hle, hnone⟩ :=
    run_noted limits elapsed conduct messages j
  intro call noted
  rw [show noted = _ from hnoted]
  refine ⟨⟨rfl, rfl, rfl⟩, hsuccession, hnil, hempty, hlast, helapsed,
    fun most hmost => ⟨hsuccession.length_le hmost, fun hlength last hmem _ hresult hne => ?_⟩,
    fun secs hsecs hbad => ?_, hle, hnone⟩
  · dsimp only at hlength
    have hnumber := hsuccession.number_getLast hmem
    have hdecides := hlast last hmem
    unfold Decides at hdecides
    rw [hresult] at hdecides
    rw [(hdecides.2 hne).1 most hmost (by omega),
      show last.number - 1 = most by omega]
  · exact hsuccession.length_le_one (Option.mem_map.2 ⟨secs, hsecs, rfl⟩) (ofSeconds_nanos hbad)

end Run

end ConfirmedDelivery.Retry
