import ConfirmedDelivery.Attributes
import ConfirmedDelivery.Books
import ConfirmedDelivery.Broker.Basic
import ConfirmedDelivery.Broker.Client
import ConfirmedDelivery.Broker.Ruling
import ConfirmedDelivery.Broker.Session
import ConfirmedDelivery.Confirm
import ConfirmedDelivery.Console.Arguments
import ConfirmedDelivery.Console.Basic
import ConfirmedDelivery.Console.Options
import ConfirmedDelivery.Console.Person
import ConfirmedDelivery.Dict
import ConfirmedDelivery.Failure
import ConfirmedDelivery.InFlight
import ConfirmedDelivery.Journal.Event
import ConfirmedDelivery.Journal.Filter
import ConfirmedDelivery.Journal.Line
import ConfirmedDelivery.Journal.Logging
import ConfirmedDelivery.Json.Fault
import ConfirmedDelivery.Json.Reader
import ConfirmedDelivery.Json.Record
import ConfirmedDelivery.Json.Typed
import ConfirmedDelivery.Json.Value
import ConfirmedDelivery.Link
import ConfirmedDelivery.Lull
import ConfirmedDelivery.Main
import ConfirmedDelivery.Message
import ConfirmedDelivery.Number.Binary64
import ConfirmedDelivery.Number.Numeral
import ConfirmedDelivery.Number.Shortest
import ConfirmedDelivery.Number.Style
import ConfirmedDelivery.Pacing
import ConfirmedDelivery.Proofs.Abandoned
import ConfirmedDelivery.Proofs.Acceptance
import ConfirmedDelivery.Proofs.Attempts
import ConfirmedDelivery.Proofs.Attributes
import ConfirmedDelivery.Proofs.Books
import ConfirmedDelivery.Proofs.Broker.Abreast
import ConfirmedDelivery.Proofs.Broker.Calls
import ConfirmedDelivery.Proofs.Broker.Chronicle
import ConfirmedDelivery.Proofs.Broker.Collapsing
import ConfirmedDelivery.Proofs.Broker.Coming
import ConfirmedDelivery.Proofs.Broker.Compressed
import ConfirmedDelivery.Proofs.Broker.Cooperation
import ConfirmedDelivery.Proofs.Broker.Deeds
import ConfirmedDelivery.Proofs.Broker.Deferred
import ConfirmedDelivery.Proofs.Broker.Delay
import ConfirmedDelivery.Proofs.Broker.Evenly
import ConfirmedDelivery.Proofs.Broker.Exactly
import ConfirmedDelivery.Proofs.Broker.Excerpt
import ConfirmedDelivery.Proofs.Broker.Exchange
import ConfirmedDelivery.Proofs.Broker.Failures
import ConfirmedDelivery.Proofs.Broker.Flushing
import ConfirmedDelivery.Proofs.Broker.Foretold
import ConfirmedDelivery.Proofs.Broker.Level
import ConfirmedDelivery.Proofs.Broker.Matching
import ConfirmedDelivery.Proofs.Broker.Nearing
import ConfirmedDelivery.Proofs.Broker.Outlasting
import ConfirmedDelivery.Proofs.Broker.Outside
import ConfirmedDelivery.Proofs.Broker.Own
import ConfirmedDelivery.Proofs.Broker.Passes
import ConfirmedDelivery.Proofs.Broker.Pictured
import ConfirmedDelivery.Proofs.Broker.Reachable
import ConfirmedDelivery.Proofs.Broker.Recast
import ConfirmedDelivery.Proofs.Broker.Relenting
import ConfirmedDelivery.Proofs.Broker.Reports
import ConfirmedDelivery.Proofs.Broker.Schedule
import ConfirmedDelivery.Proofs.Broker.Singly
import ConfirmedDelivery.Proofs.Broker.Spoken
import ConfirmedDelivery.Proofs.Broker.Stirring
import ConfirmedDelivery.Proofs.Broker.Stopping
import ConfirmedDelivery.Proofs.Broker.Storage
import ConfirmedDelivery.Proofs.Broker.Stranded
import ConfirmedDelivery.Proofs.Broker.Timeless
import ConfirmedDelivery.Proofs.Broker.Timely
import ConfirmedDelivery.Proofs.Broker.Turns
import ConfirmedDelivery.Proofs.Broker.Twins
import ConfirmedDelivery.Proofs.Broker.Undisturbed
import ConfirmedDelivery.Proofs.Broker.Waking
import ConfirmedDelivery.Proofs.Confirms
import ConfirmedDelivery.Proofs.Dict
import ConfirmedDelivery.Proofs.History
import ConfirmedDelivery.Proofs.InFlight
import ConfirmedDelivery.Proofs.Json.Grammar
import ConfirmedDelivery.Proofs.Json.Number
import ConfirmedDelivery.Proofs.Json.Record
import ConfirmedDelivery.Proofs.Json.Text
import ConfirmedDelivery.Proofs.Json.Value
import ConfirmedDelivery.Proofs.Minutes
import ConfirmedDelivery.Proofs.Number.Reading
import ConfirmedDelivery.Proofs.Number.Rounding
import ConfirmedDelivery.Proofs.Number.Shortest
import ConfirmedDelivery.Proofs.Order
import ConfirmedDelivery.Proofs.Protocol
import ConfirmedDelivery.Proofs.Publisher
import ConfirmedDelivery.Proofs.Repeated
import ConfirmedDelivery.Proofs.Retry
import ConfirmedDelivery.Proofs.Round.Alike
import ConfirmedDelivery.Proofs.Round.Journal
import ConfirmedDelivery.Proofs.Round.Plan
import ConfirmedDelivery.Proofs.Round.Steps
import ConfirmedDelivery.Proofs.Round.Upholds
import ConfirmedDelivery.Proofs.Settings.Bounds
import ConfirmedDelivery.Proofs.Settings.Layers
import ConfirmedDelivery.Proofs.Settings.Text
import ConfirmedDelivery.Proofs.Singly
import ConfirmedDelivery.Proofs.Telling
import ConfirmedDelivery.Proofs.Text.SnakeCase
import ConfirmedDelivery.Proofs.Transcript
import ConfirmedDelivery.Proofs.Waiter
import ConfirmedDelivery.Publisher
import ConfirmedDelivery.Report
import ConfirmedDelivery.Retry
import ConfirmedDelivery.Round
import ConfirmedDelivery.Settings.Basic
import ConfirmedDelivery.Settings.Check
import ConfirmedDelivery.Settings.Layers
import ConfirmedDelivery.Settings.Text
import ConfirmedDelivery.Span
import ConfirmedDelivery.Text.Alphanumeric
import ConfirmedDelivery.Text.CaseIgnorable
import ConfirmedDelivery.Text.Casing
import ConfirmedDelivery.Text.CodeRun
import ConfirmedDelivery.Text.Combining
import ConfirmedDelivery.Text.Lowercase
import ConfirmedDelivery.Text.LowercaseForm
import ConfirmedDelivery.Text.Pattern.Atom
import ConfirmedDelivery.Text.Pattern.Bracket
import ConfirmedDelivery.Text.Pattern.Check
import ConfirmedDelivery.Text.Quoted
import ConfirmedDelivery.Text.TypePath
import ConfirmedDelivery.Text.Unprintable
import ConfirmedDelivery.Text.Uppercase
import ConfirmedDelivery.Text.Visible
