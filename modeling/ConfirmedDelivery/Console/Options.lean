import ConfirmedDelivery.Settings.Layers
import ConfirmedDelivery.Text.Visible

/-!
# Options

What can be said on the command line. Each option is given at most once, and its value is read as
soon as it is known to be complete; so of several faults the first one is told.
-/

namespace ConfirmedDelivery.Console

/-- The name of an option. -/
inductive OptionName where
  | count
  | config
  | batchSize
  | timeoutSecs
  | strategy
  | maxRounds
  | nackRate
  | cumulativeAcks
  | logLevel
  | logFormat
deriving DecidableEq

namespace OptionName

/-- Every option. -/
def all : List OptionName :=
  [.count, .config, .batchSize, .timeoutSecs, .strategy, .maxRounds, .nackRate, .cumulativeAcks,
    .logLevel, .logFormat]

/-- What is written after two hyphens. -/
def word : OptionName → String
  | .count => "count"
  | .config => "config"
  | .batchSize => "batch-size"
  | .timeoutSecs => "timeout-secs"
  | .strategy => "strategy"
  | .maxRounds => "max-rounds"
  | .nackRate => "nack-rate"
  | .cumulativeAcks => "cumulative-acks"
  | .logLevel => "log-level"
  | .logFormat => "log-format"

/-- The option that is written with a word. -/
def ofWord? (word : String) : Option OptionName := all.find? fun name => name.word == word

/-- Whether the option has a value. -/
def valued (name : OptionName) : Bool := name != .cumulativeAcks

/-- The option in a message: its name, and in capitals what stands for its value. -/
def shown (name : OptionName) : String :=
  let placeholder := name.word.toList.map fun c => if c = '-' then '_' else c.toUpper
  "--" ++ name.word ++ if name.valued then " <" ++ String.ofList placeholder ++ ">" else ""

end OptionName

/-- Why a command line leads to no run. -/
inductive Refusal where
  | helpWanted
  | unexpected (argument : String)
  | valueMissing (name : OptionName)
  | repeated (name : OptionName)
  | invalidValue (name : OptionName) (value reason : String)
  /-- A value for something, shown as it is, that has none. -/
  | valueUnwanted (shown value : String)
deriving DecidableEq

namespace Refusal

/-- What to do next, if only help is wanted. -/
def usage : String :=
  "Publish messages and wait for broker confirms\n\nUsage: confirm-publisher [OPTIONS]\n\nOptions:\n"
    ++ String.join (OptionName.all.map fun name => "      " ++ name.shown ++ "\n")
    ++ "  -h, --help\n"

/-- The end of a refusal, and where to find help. -/
def advised (ending : String) : List String :=
  [ending ++ "\n\nFor more information, try '", "--help", "'."]

/-- The refusal in pieces, between which the style of the letters changes. -/
def pieces : Refusal → List String
  | .helpWanted => [usage]
  | .unexpected argument => ["unexpected argument '", argument] ++ advised "' found"
  | .valueMissing name =>
    ["a value is required for '", name.shown] ++ advised "' but none was supplied"
  | .repeated name => ["the argument '", name.shown] ++ advised "' cannot be used multiple times"
  | .invalidValue name value reason =>
    ["invalid value '", value, "' for '", name.shown] ++ advised ("': " ++ reason)
  | .valueUnwanted shown value =>
    ["unexpected value '", value, "' for '", shown] ++ advised "' found; no more were expected"

/-- The refusal as it can be read. What steers a terminal is left out, and no sequence goes on in the
next piece. -/
def message : Refusal → String
  | .helpWanted => usage
  | refusal => "error: " ++ String.join (refusal.pieces.map Text.visible)

end Refusal

/-- What was said on the command line. -/
structure Options where
  /-- How many messages to publish at once, instead of asking for numbers. -/
  count : Option Nat
  /-- The path of a file with settings. -/
  config : Option String
  batchSize : Option Nat
  timeoutSecs : Option Binary64
  pacing : Option Pacing
  maxRounds : Option Nat
  /-- The probability with which the broker refuses a message. -/
  nackRate : Option Binary64
  /-- Whether the broker reports runs of messages at once. -/
  cumulativeAcks : Bool
  logLevel : Option String
  logFormat : Option String
deriving DecidableEq

namespace Options

/-- Nothing was said. -/
def silent : Options := ⟨none, none, none, none, none, none, none, false, none, none⟩

/-- The variable that stands in for the path of a file with settings. -/
def configVariable : String := "PUBLISHER_CONFIG"

/-- The settings among the options. -/
def overrides (o : Options) : Settings.Overrides :=
  ⟨o.batchSize, o.timeoutSecs, o.pacing, o.maxRounds, o.logLevel⟩

/-- Reads a number of at most 32 bits. A number that is none is told apart from one out of range. -/
def readRounds (text : String) : Except String Nat :=
  match Whole.readSigned (twoPow 63) text with
  | .error fault => .error fault.message
  | .ok i =>
    if 0 ≤ i ∧ i < twoPow 32 then .ok i.toNat
    else .error (toString i ++ " is not in 0..=" ++ toString (twoPow 32 - 1))

/-- Reads the value of an option that has none yet. -/
def fresh {α : Type} (name : OptionName) (old : Option α) (value : String)
    (read : String → Except String α) : Except Refusal (Option α) :=
  if old.isSome then .error (.repeated name)
  else
    match read value with
    | .ok a => .ok (some a)
    | .error reason => .error (.invalidValue name value reason)

/-- The path of a file with settings. -/
def path (value : String) : Except Refusal String :=
  if value.isEmpty then .error (.valueMissing .config) else .ok value

/-- Gives an option a value; what an option without values is given does not matter. -/
def give (o : Options) (name : OptionName) (value : String) : Except Refusal Options :=
  let word := fun text => (readWord text).mapError NumberFault.message
  let real := fun text => (readReal text).mapError NumberFault.message
  match name with
  | .count => (fresh name o.count value word).map fun x => { o with count := x }
  | .config =>
    if o.config.isSome then .error (.repeated name)
    else (path value).map fun x => { o with config := some x }
  | .batchSize => (fresh name o.batchSize value word).map fun x => { o with batchSize := x }
  | .timeoutSecs => (fresh name o.timeoutSecs value real).map fun x => { o with timeoutSecs := x }
  | .strategy => (fresh name o.pacing value Pacing.read).map fun x => { o with pacing := x }
  | .maxRounds => (fresh name o.maxRounds value readRounds).map fun x => { o with maxRounds := x }
  | .nackRate => (fresh name o.nackRate value real).map fun x => { o with nackRate := x }
  | .cumulativeAcks =>
    if o.cumulativeAcks then .error (.repeated name) else .ok { o with cumulativeAcks := true }
  | .logLevel => (fresh name o.logLevel value .ok).map fun x => { o with logLevel := x }
  | .logFormat => (fresh name o.logFormat value .ok).map fun x => { o with logFormat := x }

end Options

end ConfirmedDelivery.Console
