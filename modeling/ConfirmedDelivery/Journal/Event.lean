import ConfirmedDelivery.Failure
import ConfirmedDelivery.Message
import ConfirmedDelivery.Report
import ConfirmedDelivery.Settings.Basic

/-!
# The journal

Everything worth telling happens as an event. An event has a level, the part of the program that
tells it, a sentence and named values (`Event.entry`). Readings of the wall clock differ from run to
run, so an entry can be had with them or without.
-/

namespace ConfirmedDelivery

/-- How much an event matters, the least first. -/
inductive Level where
  | trace
  | debug
  | info
  | warn
  | error
deriving DecidableEq

namespace Level

def name : Level → String
  | .trace => "TRACE"
  | .debug => "DEBUG"
  | .info => "INFO"
  | .warn => "WARN"
  | .error => "ERROR"

/-- Five for the least, one for the most important. -/
def verbosity : Level → Nat
  | .error => 1
  | .warn => 2
  | .info => 3
  | .debug => 4
  | .trace => 5

end Level

/-- The part of the program that tells an event. -/
inductive Source where
  | console
  | settings
  | publisher
  | retry
  | books
  | broker
  | logging
deriving DecidableEq

/-- The name that a log line gives to a part of the program. -/
def Source.target : Source → String
  | .console => "confirm_publisher"
  | .settings => "confirm_publisher::config"
  | .publisher => "confirm_publisher::publisher"
  | .retry => "confirm_publisher::retry"
  | .books => "confirm_publisher::tracker"
  | .broker => "confirm_publisher::memory"
  | .logging => "observability"

/-- A value of an entry. -/
inductive EntryValue where
  /-- A text that is shown as it is. -/
  | plain (text : String)
  /-- A text that is shown in quotes where quotes are used. -/
  | quoted (text : String)
  | number (value : Nat)
  | real (value : Binary64)
  | flag (value : Bool)
deriving DecidableEq

namespace EntryValue

/-- The value without quotes. -/
def text : EntryValue → String
  | .plain s => s
  | .quoted s => s
  | .number n => toString n
  | .real x => NumberStyle.diagnostic.write x
  | .flag b => toString b

def ofTag (t : Tag) : EntryValue := .number t.toNat

end EntryValue

/-- An event in words. -/
structure Entry where
  level : Level
  source : Source
  message : String
  fields : List (String × EntryValue)
deriving DecidableEq

/-- Something that happened. -/
inductive Event where
  | sessionOpened (session : Nat)
  | sessionClosed (session : Nat)
  | transmitted (session : Nat) (tag : Tag) (destination : String)
  | settled (verdict : Verdict) (tag : Tag) (id : MessageId) (multiple : Bool)
  | unmatched (confirm : Confirm)
  | confirming (round : Nat) (start : Tag)
  | published (tag next : Tag) (id : MessageId) (destination : String)
  | batchLate (round batch outstanding : Nat)
  | drainLate (round outstanding : Nat) (timeout : Span)
  | closeFailed (round : Nat) (fault : LinkFault)
  | abandoned (round count : Nat)
  | retriesExhausted (rounds remaining : Nat)
  | deadlineExceeded (elapsed : Span) (remaining : Nat)
  | republishing (round count : Nat)
  | allConfirmed
  | summary (report : Report)
  | ignoredVariable (name : String) (value : String)
  | ignoredPacing (name : String) (reason : String)
  | loggingReady (service : String)
  | settingsLoaded (settings : Settings) (nackRate : Binary64)
  | notANumber (input : String)
  | publishFinished (report : Report)
  | publishFailed (failure : Failure)
  | exitedWithError (failure : Failure)

namespace Event

def level : Event → Level
  | .sessionOpened _ => .debug
  | .sessionClosed _ => .debug
  | .transmitted _ _ _ => .trace
  | .settled .acked _ _ _ => .debug
  | .settled .nacked _ _ _ => .warn
  | .unmatched _ => .trace
  | .confirming _ _ => .info
  | .published _ _ _ _ => .debug
  | .batchLate _ _ _ => .warn
  | .drainLate _ _ _ => .warn
  | .closeFailed _ _ => .warn
  | .abandoned _ _ => .warn
  | .retriesExhausted _ _ => .warn
  | .deadlineExceeded _ _ => .warn
  | .republishing _ _ => .info
  | .allConfirmed => .info
  | .summary _ => .info
  | .ignoredVariable _ _ => .warn
  | .ignoredPacing _ _ => .warn
  | .loggingReady _ => .debug
  | .settingsLoaded _ _ => .info
  | .notANumber _ => .warn
  | .publishFinished _ => .info
  | .publishFailed _ => .error
  | .exitedWithError _ => .error

def source : Event → Source
  | .sessionOpened _ => .broker
  | .sessionClosed _ => .broker
  | .transmitted _ _ _ => .broker
  | .settled _ _ _ _ => .books
  | .unmatched _ => .books
  | .confirming _ _ => .publisher
  | .published _ _ _ _ => .publisher
  | .batchLate _ _ _ => .publisher
  | .drainLate _ _ _ => .publisher
  | .closeFailed _ _ => .publisher
  | .abandoned _ _ => .publisher
  | .retriesExhausted _ _ => .retry
  | .deadlineExceeded _ _ => .retry
  | .republishing _ _ => .retry
  | .allConfirmed => .retry
  | .summary _ => .retry
  | .ignoredVariable _ _ => .settings
  | .ignoredPacing _ _ => .settings
  | .loggingReady _ => .logging
  | .settingsLoaded _ _ => .console
  | .notANumber _ => .console
  | .publishFinished _ => .console
  | .publishFailed _ => .console
  | .exitedWithError _ => .console

/-- Milliseconds of a clock reading, or a mark in their place. -/
def millis (clock : Bool) (d : Span) : String :=
  if clock then toString (d.nanos / 1000000) else "_"

/-- The event as a sentence. -/
def message (clock : Bool) : Event → String
  | .sessionOpened _ => "Memory session opened"
  | .sessionClosed _ => "Memory session closed"
  | .transmitted _ _ _ => "Memory transmit"
  | .settled .acked _ _ _ => "Message ack-ed"
  | .settled .nacked _ _ _ => "Message nack-ed, queued for republish"
  | .unmatched _ => "Confirmation matched no outstanding message"
  | .confirming _ _ => "Confirm mode enabled"
  | .published _ _ _ _ => "Published message"
  | .batchLate _ _ _ => "Batch not confirmed in time"
  | .drainLate _ _ _ => "Confirmations timed out"
  | .closeFailed _ _ => "Failed to close session"
  | .abandoned _ _ => "Round failed, abandoning unconfirmed messages"
  | .retriesExhausted _ _ => "Retry rounds exhausted"
  | .deadlineExceeded _ _ => "Retry deadline exceeded"
  | .republishing _ _ => "Republishing nacked messages"
  | .allConfirmed => "All published messages are confirmed"
  | .summary r =>
    "Published " ++ toString r.confirmed ++ " messages in " ++ millis clock r.elapsed ++ " ms"
  | .ignoredVariable name _ => "Ignoring invalid " ++ name
  | .ignoredPacing name _ => "Ignoring invalid " ++ name
  | .loggingReady _ => "Logging initialized"
  | .settingsLoaded _ _ => "Configuration loaded"
  | .notANumber _ => "Not a number"
  | .publishFinished _ => "Publish finished"
  | .publishFailed _ => "Publish failed"
  | .exitedWithError _ => "Publisher exited with error"

/-- The name of a verdict. -/
def verdictName : Verdict → String
  | .acked => "Acked"
  | .nacked => "Nacked"

/-- A number that may be missing. -/
def optionText : Option Nat → String
  | none => "None"
  | some n => "Some(" ++ toString n ++ ")"

/-- A field, if clock readings are wanted. -/
def reading (clock : Bool) (name : String) (value : EntryValue) : List (String × EntryValue) :=
  if clock then [(name, value)] else []

/-- The named values of an event. -/
def fields (clock : Bool) : Event → List (String × EntryValue)
  | .sessionOpened s => [("session", .number s)]
  | .sessionClosed s => [("session", .number s)]
  | .transmitted s tag destination =>
    [("session", .number s), ("sequence", .ofTag tag), ("destination", .quoted destination)]
  | .settled _ tag id multiple =>
    [("delivery_tag", .ofTag tag), ("message_id", .plain id.text), ("multiple", .flag multiple)]
  | .unmatched c =>
    [("delivery_tag", .ofTag c.tag), ("outcome", .plain (verdictName c.verdict)),
      ("multiple", .flag c.multiple)]
  | .confirming round start => [("round", .number round), ("start_sequence", .ofTag start)]
  | .published tag next id destination =>
    [("sequence", .ofTag tag), ("next_sequence", .ofTag next), ("message_id", .plain id.text),
      ("destination", .plain destination)]
  | .batchLate round batch outstanding =>
    [("round", .number round), ("batch", .number batch), ("outstanding", .number outstanding)]
  | .drainLate round outstanding timeout =>
    [("round", .number round), ("outstanding", .number outstanding), ("timeout", .plain timeout.text)]
  | .closeFailed round fault => [("round", .number round), ("error", .plain fault.message)]
  | .abandoned round count => [("round", .number round), ("abandoned", .number count)]
  | .retriesExhausted rounds remaining =>
    [("rounds", .number rounds), ("remaining", .number remaining)]
  | .deadlineExceeded elapsed remaining =>
    reading clock "elapsed" (.plain elapsed.text) ++ [("remaining", .number remaining)]
  | .republishing round count => [("round", .number round), ("count", .number count)]
  | .allConfirmed => []
  | .summary r =>
    [("published", .number r.published), ("confirmed", .number r.confirmed),
      ("nacked", .number r.nacked), ("rounds", .number r.rounds)]
  | .ignoredVariable _ value => [("value", .plain value)]
  | .ignoredPacing _ reason => [("error", .plain reason)]
  | .loggingReady service => [("service", .plain service)]
  | .settingsLoaded s rate =>
    [("batch_size", .number s.batchSize),
      ("timeout_secs", .real s.timeoutSecs),
      ("strategy", .plain s.pacing.name), ("max_rounds", .plain (optionText s.retry.maxRounds)),
      ("nack_rate", .real rate)]
  | .notANumber input => [("input", .plain input)]
  | .publishFinished r =>
    [("confirmed", .number r.confirmed), ("nacked", .number r.nacked), ("rounds", .number r.rounds)]
      ++ reading clock "elapsed_ms" (.number (r.elapsed.nanos / 1000000))
  | .publishFailed failure => [("error", .plain failure.message)]
  | .exitedWithError failure => [("error", .plain failure.message)]

/-- The event in words, with readings of the wall clock or without. -/
def entry (clock : Bool) (e : Event) : Entry :=
  ⟨e.level, e.source, e.message clock, e.fields clock⟩

end Event

end ConfirmedDelivery
