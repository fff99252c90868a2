import ConfirmedDelivery.Pacing
import ConfirmedDelivery.Span

/-!
# Settings

What a publisher can be told. Bounds on waiting are numbers of seconds as they were written; what the
publisher waits is the span nearest to them, and no time at all where there is no such span.
-/

namespace ConfirmedDelivery

/-- Bounds on sending refused messages again. -/
structure RetryLimits where
  /-- How often they may be sent again; without a number there is no bound. -/
  maxRounds : Option Nat
  /-- How many seconds all rounds together may take, looked at between rounds. -/
  deadlineSecs : Option Binary64
deriving DecidableEq

namespace RetryLimits

/-- Ten times, however long it takes. -/
def standard : RetryLimits := ⟨some 10, none⟩

/-- Until all are accepted. -/
def unbounded : RetryLimits := ⟨none, none⟩

/-- The deadline as a span. -/
def deadline (l : RetryLimits) : Option Span := l.deadlineSecs.map Span.ofSeconds

end RetryLimits

/-- What a publisher can be told. -/
structure Settings where
  /-- Seconds to wait for what is in flight after all of a round is sent. -/
  timeoutSecs : Binary64
  /-- Messages in a batch. -/
  batchSize : Nat
  /-- Seconds to wait for the confirms of a batch. -/
  batchConfirmTimeoutSecs : Binary64
  pacing : Pacing
  /-- Whether messages are marked persistent. -/
  persistent : Bool
  contentType : String
  retry : RetryLimits
  logLevel : String
deriving DecidableEq

namespace Settings

/-- The settings of a publisher that was told nothing. -/
def standard : Settings where
  timeoutSecs := Binary64.ofNat 60
  batchSize := 100
  batchConfirmTimeoutSecs := Binary64.ofNat 50
  pacing := .batched
  persistent := true
  contentType := "application/json"
  retry := .standard
  logLevel := "info"

/-- How long a round waits for what is in flight. -/
def timeout (s : Settings) : Span := Span.ofSeconds s.timeoutSecs

/-- How long a round waits for a batch. -/
def batchConfirmTimeout (s : Settings) : Span := Span.ofSeconds s.batchConfirmTimeoutSecs

/-- How many messages are sent between two stops. -/
def chunkSize (s : Settings) : Nat :=
  match s.pacing with
  | .perMessage => 1
  | .batched => s.batchSize
  | .streaming => s.batchSize

/-- Whether two settings are equal, numbers of seconds by value. -/
def same (a b : Settings) : Bool :=
  a.timeoutSecs.same b.timeoutSecs && a.batchSize == b.batchSize
    && a.batchConfirmTimeoutSecs.same b.batchConfirmTimeoutSecs
    && decide (a.pacing = b.pacing) && a.persistent == b.persistent
    && a.contentType == b.contentType && a.retry.maxRounds == b.retry.maxRounds
    && (match a.retry.deadlineSecs, b.retry.deadlineSecs with
      | none, none => true
      | some x, some y => x.same y
      | _, _ => false)
    && a.logLevel == b.logLevel

end Settings

end ConfirmedDelivery
