import ConfirmedDelivery.Broker.Client
import ConfirmedDelivery.Console.Arguments
import ConfirmedDelivery.Console.Person
import ConfirmedDelivery.Journal.Filter
import ConfirmedDelivery.Journal.Line
import ConfirmedDelivery.Publisher

/-!
# The console

The console publishes made-up messages on a broker in memory: a number of them that the command line
names, or again and again as many as somebody types in. It goes from stage to stage, each step being a
function of what was typed, and puts out lines of the journal, prompts and complaints.
-/

namespace ConfirmedDelivery.Console

/-- Something that the console puts out. -/
inductive Output where
  /-- The prompt for a number. -/
  | prompt
  /-- An event, in a line of that form. -/
  | line (format : LineFormat) (event : Event)
  /-- What options there are. -/
  | help
  /-- A text for the stream of errors. -/
  | complaint (text : String)

namespace Output

/-- The prompt for a number. -/
def promptText : String := "Enter the number of messages to publish. (Q for exit)"

/-- The text that is put out. -/
def text : Output → String
  | .prompt => promptText
  | .line format event => (event.entry true).line format
  | .help => Refusal.usage
  | .complaint text => text

end Output

/-- A console at work. -/
structure Desk where
  publisher : Publisher
  client : Broker.Client
  filter : Filter
  format : LineFormat
  /-- What messages are drawn from. -/
  seed : UInt64
  /-- How many messages were drawn. -/
  drawn : Nat

/-- Where a run of the console stands. -/
inductive Stage where
  /-- It asks for a number. -/
  | asking (desk : Desk)
  /-- It is over and leaves this status. -/
  | ended (status : Nat)

/-- What a step puts out, and where it leads. -/
abbrev Step := List Output × Stage

/-- The name under which the console logs. -/
def service : String := "confirm-publisher"

/-- The variable that describes a filter. -/
def filterVariable : String := "RUST_LOG"

/-- Every variable that the console looks at. -/
def consulted : List String :=
  [Options.configVariable, filterVariable, Settings.timeoutVariable, Settings.batchSizeVariable,
    Settings.pacingVariable, Settings.logLevelVariable]

/-- The complaint about a failure that ends the run. -/
def complaint (failure : Failure) : Output := .complaint ("Error: " ++ failure.details)

/-- The lines of the events that a filter shows. -/
def lines (filter : Filter) (format : LineFormat) (events : List Event) : List Output :=
  (events.filter fun e => filter.shows (e.entry true)).map (.line format)

namespace Desk

/-- The lines of events. -/
def tell (d : Desk) (events : List Event) : List Output := lines d.filter d.format events

/-- Publishes so many messages. A call that never comes to an end has no result. -/
def publish (d : Desk) (count : Nat) : Option (Except Failure Report) × List Event × Desk :=
  let messages := (List.range count).map fun i => Person.message d.seed (d.drawn + i)
  let (result, j) := d.publisher.publishAll Broker.Client.link messages (Journaled.start d.client)
  let finished := match result with
    | some (.ok report) => [.publishFinished report]
    | _ => []
  (result, j.journal.toList ++ finished, { d with client := j.state, drawn := d.drawn + count })

/-- Publishes once and ends the run. -/
def publishOnce (d : Desk) (count : Nat) : Step :=
  match d.publish count with
  | (some (.ok _), events, d) => (d.tell events, .ended 0)
  | (some (.error failure), events, d) =>
    (d.tell (events ++ [.exitedWithError failure]) ++ [complaint failure], .ended 1)
  | (none, events, d) => (d.tell events, .ended 1)

/-- Takes a line that was typed in: the letter Q ends the run, and a number of messages is published.
The run goes on after a failure. -/
def enter (d : Desk) (line : String) : Step :=
  let input := Text.trim line
  if input = "q" ∨ input = "Q" then ([], .ended 0)
  else
    match readWord input with
    | .error _ => (d.tell [.notANumber input], .asking d)
    | .ok count =>
      match d.publish count with
      | (some (.ok _), events, d) => (d.tell events, .asking d)
      | (some (.error failure), events, d) =>
        (d.tell (events ++ [.publishFailed failure]), .asking d)
      | (none, events, d) => (d.tell events, .ended 1)

end Desk

/-- What the console is given to work with. -/
structure World where
  env : Settings.Environment
  /-- The texts of files, by their paths. -/
  files : String → Except FileFault String
  seed : UInt64

/-- The broker that the options ask for. -/
def broker (o : Options) (rate : Binary64) (seed : UInt64) : Broker :=
  { Broker.start with
    script := .nackRate seed rate
    reporting := if o.cumulativeAcks then .cumulative else .individual }

/-- A probability that was asked for, unless it is none. -/
def checkRate (rate : Binary64) : Except Failure Unit :=
  if (Binary64.ofNat 0).atMost rate && rate.atMost Binary64.one then .ok ()
  else .error (.configuration
    ("nack-rate must be between 0 and 1, got " ++ NumberStyle.plain.write rate))

/-- What the console is when its settings hold no fault and logging has begun. -/
def desk (o : Options) (w : World) (filter : Filter) (format : LineFormat) (settings : Settings) :
    Except Failure Desk := do
  let rate := o.nackRate.getD (Binary64.ofNat 0)
  checkRate rate
  let publisher ← Publisher.ofSettings settings
  pure ⟨publisher, ⟨broker o rate w.seed, 0⟩, filter, format, w.seed, 0⟩

/-- Begins a run with options: settings, then logging, then the broker; a fault in one of them ends
the run. -/
def begin (o : Options) (w : World) : Step :=
  match Settings.build (o.config.map w.files) w.env o.overrides with
  | .error failure => ([complaint failure], .ended 1)
  | .ok settings =>
    let format := (o.logFormat.map LineFormat.read).getD .standard
    let logging : Logging := ⟨service, settings.logLevel, format⟩
    let (filter, complaints) := Filter.choose (w.env filterVariable) logging.level
    let begun := complaints.map Output.complaint
      ++ lines filter format (logging.begin false).toList
    match desk o w filter format settings with
    | .error failure => (begun ++ [complaint failure], .ended 1)
    | .ok d =>
      let loaded := d.tell [.settingsLoaded settings (o.nackRate.getD (Binary64.ofNat 0))]
      match o.count with
      | none => (begun ++ loaded, .asking d)
      | some count =>
        let (outputs, stage) := d.publishOnce count
        (begun ++ loaded ++ outputs, stage)

/-- Begins a run with a command line. -/
def start (arguments : List String) (w : World) : Step :=
  match Options.read w.env arguments with
  | .ok o => begin o w
  | .error .helpWanted => ([.help], .ended 0)
  | .error refusal => ([.complaint refusal.message], .ended 2)

/-- Goes on with the lines that are typed in; when there are no more, the run ends. -/
def follow : Stage → List String → List Output × Nat
  | .ended status, _ => ([], status)
  | .asking _, [] => ([.prompt], 0)
  | .asking d, line :: rest =>
    let (outputs, stage) := d.enter line
    let (more, status) := follow stage rest
    (.prompt :: outputs ++ more, status)

/-- A whole run: everything that it puts out, and its status. -/
def run (arguments : List String) (w : World) (input : List String) : List Output × Nat :=
  let (outputs, stage) := start arguments w
  let (more, status) := follow stage input
  (outputs ++ more, status)

/-- The lines of a text; what stands after the last line end is a line if it is not empty. -/
def inputLines (text : String) : List String :=
  let pieces := text.toList.splitOnP (· = '\n')
  let pieces := if pieces.getLast? = some [] then pieces.dropLast else pieces
  pieces.map String.ofList

end ConfirmedDelivery.Console
