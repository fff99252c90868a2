import ConfirmedDelivery.Report
import ConfirmedDelivery.Round

/-!
# Rounds until nothing is refused

Messages are sent in rounds: the first round gets all of them, each later one what the round before it
had refused. The bounds on rounds and on time are looked at between rounds, the number of rounds
first. Rounds are numbered with 32 bits; what takes more of them has no result.
-/

namespace ConfirmedDelivery

namespace Retry

variable {σ α : Type}

/-- A round as seen from outside: its number and its messages lead to an outcome or a failure. -/
abbrev Conduct (σ α : Type) :=
  Nat → List α → Journaled σ → Except Failure (Outcome α) × Journaled σ

/-- How many rounds can be numbered. -/
def roundLimit : Nat := twoPow 32 - 1

/-- Whether the messages still refused after `retries` repeated rounds may not be sent again, and
why. -/
def refusal? (limits : RetryLimits) (elapsed : Span) (retries remaining : Nat) :
    Option (Failure × Event) :=
  if limits.maxRounds.any (fun most => decide (most ≤ retries)) then
    some (.retriesExhausted retries remaining, .retriesExhausted retries remaining)
  else if limits.deadline.any (fun deadline => decide (deadline.nanos ≤ elapsed.nanos)) then
    some (.deadlineExceeded elapsed remaining, .deadlineExceeded elapsed remaining)
  else none

/-- Conducts rounds, at most `budget` of them, the first one with the messages `pending`. -/
def rounds (limits : RetryLimits) (elapsed : σ → Span) (conduct : Conduct σ α) :
    Nat → Report → List α → Journaled σ → Option (Except Failure Report) × Journaled σ
  | 0, _, _, j => (none, j)
  | budget + 1, report, pending, j =>
    match conduct (report.rounds + 1) pending j with
    | (.error failure, j) => (some (.error failure), j)
    | (.ok outcome, j) =>
      let retries := report.rounds
      let report := report.absorb outcome
      let remaining := outcome.rejected.length
      if remaining = 0 then (some (.ok report), j)
      else
        match refusal? limits (elapsed j.state) retries remaining with
        | some (failure, event) => (some (.error failure), j.note event)
        | none =>
          rounds limits elapsed conduct budget report outcome.rejected
            (j.note (.republishing (report.rounds + 1) remaining))

/-- Ends a call whose messages were all accepted. -/
def finish (report : Report) (j : Journaled σ) : Journaled σ :=
  let j := if 0 < report.rounds then j.note .allConfirmed else j
  j.note (.summary report)

/-- Sends messages until none is refused, or the limits are reached. -/
def run (limits : RetryLimits) (elapsed : σ → Span) (conduct : Conduct σ α) (messages : List α)
    (j : Journaled σ) : Option (Except Failure Report) × Journaled σ :=
  let (result, j) :=
    if messages.isEmpty then (some (.ok Report.empty), j)
    else rounds limits elapsed conduct roundLimit Report.empty messages j
  match result with
  | some (.ok report) =>
    let report := { report with elapsed := elapsed j.state }
    (some (.ok report), finish report j)
  | result => (result, j)

end Retry

end ConfirmedDelivery
