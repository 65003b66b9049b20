import StorageMetrics.OrderedMap
import StorageMetrics.Value
import StorageMetrics.Number
import StorageMetrics.Text.Blank
import StorageMetrics.Text.Digit
import StorageMetrics.Text.Printable
import StorageMetrics.Text.Word
import StorageMetrics.Text.Hex
import StorageMetrics.Text.Quoted
import StorageMetrics.Text.LineEnd
import StorageMetrics.Decimal.Shortest
import StorageMetrics.Decimal.Layout
import StorageMetrics.Decimal.Numeral
import StorageMetrics.Value.Members
import StorageMetrics.Value.Text
import StorageMetrics.Label
import StorageMetrics.MetricName
import StorageMetrics.Statistic
import StorageMetrics.Catalog
import StorageMetrics.Environment
import StorageMetrics.EnvFile
import StorageMetrics.Settings.Basic
import StorageMetrics.Instrument.Kind
import StorageMetrics.Registry.Basic
import StorageMetrics.Registry.Inventory
import StorageMetrics.Text.Json
import StorageMetrics.Histogram
import StorageMetrics.Throughput
import StorageMetrics.Source.Engine
import StorageMetrics.Source.Statistics
import StorageMetrics.Files.Path
import StorageMetrics.Files.Basic
import StorageMetrics.Files.Making
import StorageMetrics.Instrument.Basic
import StorageMetrics.Fault
import StorageMetrics.Journal
import StorageMetrics.Settings.Load
import StorageMetrics.Exposition.Family
import StorageMetrics.Exposition.Target
import StorageMetrics.Item
import StorageMetrics.Item.Content
import StorageMetrics.Surface
import StorageMetrics.Host.Basic
import StorageMetrics.Host.Strays
import StorageMetrics.Host.Mark
import StorageMetrics.Host.Families
import StorageMetrics.Host.Reading
import StorageMetrics.Host.Scrape
import StorageMetrics.Host.Registration
import StorageMetrics.Host.Surface
import StorageMetrics.Host.Kept
import StorageMetrics.Host.Part
import StorageMetrics.Host.Part.Known
import StorageMetrics.Host.Item
import StorageMetrics.Host.Context
import StorageMetrics.Host.Writing
import StorageMetrics.Decimal.Rounded
import StorageMetrics.Logging.Pattern
import StorageMetrics.Logging.Record
import StorageMetrics.Logging.Setup
import StorageMetrics.Text.Json.Reader
import StorageMetrics.Proofs.OrderedMap
import StorageMetrics.Proofs.Registry.Exact
import StorageMetrics.Proofs.Registry.Reachable
import StorageMetrics.Proofs.Host.Action
import StorageMetrics.Proofs.Host.Parts
import StorageMetrics.Proofs.Host.Unaltered
import StorageMetrics.Proofs.Host.LookUps
import StorageMetrics.Proofs.Host.RegistryCalls
import StorageMetrics.Proofs.Host.Refusal
import StorageMetrics.Proofs.Host.Reads
import StorageMetrics.Proofs.Exposition.Assembly
import StorageMetrics.Proofs.Host.Exposure
import StorageMetrics.Proofs.Host.Unmarked
import StorageMetrics.Proofs.Host.Alike
import StorageMetrics.Proofs.Label
import StorageMetrics.Proofs.MetricName
import StorageMetrics.Proofs.Throughput
import StorageMetrics.Proofs.Surface.Labels
import StorageMetrics.Proofs.Registry.Own
import StorageMetrics.Proofs.Host.Building
import StorageMetrics.Proofs.Host.Wiring
import StorageMetrics.Proofs.Host.Lifetimes
import StorageMetrics.Proofs.Host.Quiet
import StorageMetrics.Proofs.Exposition.Samples
import StorageMetrics.Proofs.Host.Routing
import StorageMetrics.Proofs.Host.Owners
import StorageMetrics.Proofs.Host.Standing
import StorageMetrics.Proofs.Surface.Series
import StorageMetrics.Proofs.Host.Serving
import StorageMetrics.Proofs.Host.Scraping
import StorageMetrics.Proofs.Host.Bindings
import StorageMetrics.Proofs.Host.Separation
import StorageMetrics.Proofs.Exposition.Overlap
import StorageMetrics.Proofs.Host.Overlap
import StorageMetrics.Proofs.Exposition.Seats
import StorageMetrics.Proofs.Host.Succession
import StorageMetrics.Proofs.Host.Sharing
import StorageMetrics.Proofs.Number
import StorageMetrics.Proofs.Settings
import StorageMetrics.Proofs.Host.Founding
import StorageMetrics.Proofs.Host.Anchor
import StorageMetrics.Proofs.Host.Skipping
import StorageMetrics.Proofs.Host.Failures
import StorageMetrics.Proofs.Host.Polls
import StorageMetrics.Proofs.Host.Gauges
import StorageMetrics.Proofs.Host.Following
import StorageMetrics.Proofs.Settings.Check
import StorageMetrics.Proofs.Settings.Blank
import StorageMetrics.Proofs.Registry.Wanted
import StorageMetrics.Proofs.Host.Interrupted
import StorageMetrics.Proofs.Host.Orphans
import StorageMetrics.Proofs.Host.Foreign
import StorageMetrics.Proofs.Surface.Shards
import StorageMetrics.Proofs.Host.Identities
import StorageMetrics.Proofs.Registry.Inventory
import StorageMetrics.Proofs.Host.Inventory
import StorageMetrics.Proofs.Histogram
import StorageMetrics.Proofs.Host.Distribution
import StorageMetrics.Proofs.Logging.Loggers
import StorageMetrics.Proofs.Logging.Console
import StorageMetrics.Proofs.Logging.Rendering
import StorageMetrics.Proofs.Logging.Setup
import StorageMetrics.Proofs.Logging.Choice
import StorageMetrics.Proofs.Logging.Refusal
import StorageMetrics.Proofs.Decimal.Numeral
import StorageMetrics.Proofs.Text.Json
import StorageMetrics.Proofs.Text.Json.Reader
import StorageMetrics.Proofs.Logging.JsonLines
import StorageMetrics.Proofs.Settings.EnvFile
import StorageMetrics.Proofs.Label.Snake
import StorageMetrics.Proofs.Label.Level
