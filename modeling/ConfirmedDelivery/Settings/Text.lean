import ConfirmedDelivery.Failure
import ConfirmedDelivery.Json.Record
import ConfirmedDelivery.Settings.Basic

/-!
# Settings as JSON texts

The fields of settings with their names, in the order in which they are written. A text may leave any
of them out. A number of rounds that is null means that there is no bound, one that is left out
means the standard bound.
-/

namespace ConfirmedDelivery

/-- The fields of retry limits. -/
def RetryLimits.fields : List (Json.Field RetryLimits) := [
  .of "max_rounds" (fun _ => Json.readOption (Json.readNat (twoPow 32 - 1) "u32"))
    (Json.optionChars Json.natChars) (·.maxRounds) (fun x r => { r with maxRounds := x }),
  .of "deadline_secs" (fun _ => Json.readOption Json.readReal)
    (Json.optionChars Json.realChars) (·.deadlineSecs) (fun x r => { r with deadlineSecs := x })]

/-- Reads retry limits. -/
def RetryLimits.reader (depth : Nat) : Json.Reader RetryLimits :=
  Json.Record.read "struct RetryPolicy" fields standard depth

namespace Settings

/-- The fields of settings. -/
def fields : List (Json.Field Settings) := [
  .of "timeout_secs" (fun _ => Json.readReal) Json.realChars
    (·.timeoutSecs) (fun x s => { s with timeoutSecs := x }),
  .of "batch_size" (fun _ => Json.readNat (twoPow 64 - 1) "usize") Json.natChars
    (·.batchSize) (fun x s => { s with batchSize := x }),
  .of "batch_confirm_timeout_secs" (fun _ => Json.readReal) Json.realChars
    (·.batchConfirmTimeoutSecs) (fun x s => { s with batchConfirmTimeoutSecs := x }),
  .of "strategy" (Json.readVariant Pacing.all) (fun p => Json.textChars p.name)
    (·.pacing) (fun x s => { s with pacing := x }),
  .of "persistent" (fun _ => Json.readBool) Json.boolChars
    (·.persistent) (fun x s => { s with persistent := x }),
  .of "content_type" (fun _ => Json.readText) Json.textChars
    (·.contentType) (fun x s => { s with contentType := x }),
  .of "retry" RetryLimits.reader (Json.Record.chars RetryLimits.fields)
    (·.retry) (fun x s => { s with retry := x }),
  .of "log_level" (fun _ => Json.readText) Json.textChars
    (·.logLevel) (fun x s => { s with logLevel := x })]

/-- Reads settings. -/
def reader (depth : Nat) : Json.Reader Settings :=
  Json.Record.read "struct PublisherConfig" fields standard depth

/-- Reads settings from a JSON text. -/
def ofText (text : String) : Except Json.Fault Settings :=
  Json.readAll (reader Json.depthLimit) text

/-- The settings as a JSON text. -/
def render (s : Settings) : String := String.ofList (Json.Record.chars fields s)

/-- The settings that a file holds, if it could be read. -/
def ofFile : Except FileFault String → Except Failure Settings
  | .error fault => .error (.file fault)
  | .ok text => (ofText text).mapError .json

/-- The text in the bytes of a file. -/
def fileText (bytes : ByteArray) : Except FileFault String :=
  match String.fromUTF8? bytes with
  | some text => .ok text
  | none => .error .notText

end Settings

end ConfirmedDelivery
