import ConfirmedDelivery.Journal.Event
import ConfirmedDelivery.Number.Numeral
import ConfirmedDelivery.Settings.Check
import ConfirmedDelivery.Settings.Text

/-!
# Layers of settings

Settings come from three layers: a file or the standard settings, then the environment, then the
command line. A later layer replaces single fields. A variable whose value cannot be read changes
nothing and is told to the journal. Only the settings that come out in the end are checked.
-/

namespace ConfirmedDelivery

namespace Settings

/-- The environment: the value of each variable that is set to a text. -/
abbrev Environment := String → Option String

def timeoutVariable : String := "PUBLISHER_TIMEOUT_SECS"

def batchSizeVariable : String := "PUBLISHER_BATCH_SIZE"

def pacingVariable : String := "PUBLISHER_STRATEGY"

def logLevelVariable : String := "PUBLISHER_LOG_LEVEL"

/-- Puts on the value that a variable names. `ignored` tells of a text that cannot be read. -/
def withVariable {ε α : Type} (name : String) (read : String → Except ε α)
    (put : α → Settings → Settings) (ignored : String → ε → Event) (env : Environment)
    (s : Settings) : Settings × List Event :=
  match env name with
  | none => (s, [])
  | some text =>
    match read text with
    | .ok a => (put a s, [])
    | .error fault => (s, [ignored text fault])

/-- The seconds to wait that the environment names. -/
def withTimeout : Environment → Settings → Settings × List Event :=
  withVariable timeoutVariable readReal (fun secs s => { s with timeoutSecs := secs })
    fun text _ => .ignoredVariable timeoutVariable text

/-- The size of batches that the environment names. -/
def withBatchSize : Environment → Settings → Settings × List Event :=
  withVariable batchSizeVariable readWord (fun size s => { s with batchSize := size })
    fun text _ => .ignoredVariable batchSizeVariable text

/-- The pacing that the environment names. -/
def withPacing : Environment → Settings → Settings × List Event :=
  withVariable pacingVariable Pacing.read (fun pacing s => { s with pacing })
    fun _ reason => .ignoredPacing pacingVariable reason

/-- The log level that the environment names. -/
def withLogLevel (env : Environment) (s : Settings) : Settings :=
  match env logLevelVariable with
  | none => s
  | some text => { s with logLevel := text }

/-- Everything that the environment names. -/
def withEnvironment (env : Environment) (s : Settings) : Settings × List Event :=
  let (s, timeout) := s.withTimeout env
  let (s, batchSize) := s.withBatchSize env
  let (s, pacing) := s.withPacing env
  (s.withLogLevel env, timeout ++ batchSize ++ pacing)

/-- The fields that a command line may name. -/
structure Overrides where
  batchSize : Option Nat
  timeoutSecs : Option Binary64
  pacing : Option Pacing
  maxRounds : Option Nat
  logLevel : Option String

/-- Everything that the command line names. -/
def withOverrides (o : Overrides) (s : Settings) : Settings :=
  { s with
    batchSize := o.batchSize.getD s.batchSize
    timeoutSecs := o.timeoutSecs.getD s.timeoutSecs
    pacing := o.pacing.getD s.pacing
    retry := { s.retry with maxRounds := o.maxRounds.orElse fun _ => s.retry.maxRounds }
    logLevel := o.logLevel.getD s.logLevel }

/-- The settings of a file and the environment, the standard ones if there is no file. -/
def load (file : Option (Except FileFault String)) (env : Environment) :
    Except Failure (Settings × List Event) :=
  match file with
  | none => .ok (standard.withEnvironment env)
  | some content => (ofFile content).map (withEnvironment env)

/-- The settings of all layers, if there is no fault in them. -/
def build (file : Option (Except FileFault String)) (env : Environment) (o : Overrides) :
    Except Failure Settings := do
  let (s, _) ← load file env
  let s := s.withOverrides o
  match s.check with
  | .ok () => .ok s
  | .error fault => .error (.configuration fault.message)

end Settings

end ConfirmedDelivery
