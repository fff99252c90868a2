import ConfirmedDelivery.Settings.Basic
import ConfirmedDelivery.Number.Style

/-!
# Checking settings

A publisher can run with settings whose batches hold a message at least and whose bounds are positive
numbers of seconds that a span can hold.
-/

namespace ConfirmedDelivery

/-- What is wrong with settings. -/
inductive SettingsFault where
  | emptyBatch
  | seconds (field : String) (value : Binary64)

/-- The fault as a sentence. -/
def SettingsFault.message : SettingsFault → String
  | .emptyBatch => "batch_size must be at least 1"
  | .seconds field value =>
    field ++ " must be a positive number of seconds, got " ++ NumberStyle.plain.write value

namespace Settings

/-- Whether a number of seconds can bound a wait. -/
def canBound (secs : Binary64) : Bool :=
  secs.isFinite && secs.positive && (Span.ofSeconds? secs).isSome

/-- Checks one number of seconds. -/
def checkSeconds (field : String) (secs : Binary64) : Except SettingsFault Unit :=
  if canBound secs then .ok () else .error (.seconds field secs)

/-- Finds the first fault. -/
def check (s : Settings) : Except SettingsFault Unit := do
  if s.batchSize = 0 then .error .emptyBatch
  checkSeconds "timeout_secs" s.timeoutSecs
  checkSeconds "batch_confirm_timeout_secs" s.batchConfirmTimeoutSecs
  match s.retry.deadlineSecs with
  | some secs => checkSeconds "retry.deadline_secs" secs
  | none => .ok ()

end Settings

end ConfirmedDelivery
