import StorageMetrics.Fault

/-
  The journal: what the library reports while it works. Each entry has a severity, the part of the
  library that reports, a text, and where it applies an event name and the fault that led to it.
-/

namespace StorageMetrics

inductive Severity where
  | debug
  | info
  | warning
deriving DecidableEq, Inhabited

namespace Severity

def rank : Severity → Nat
  | debug => 10
  | info => 20
  | warning => 30

def text : Severity → String
  | debug => "DEBUG"
  | info => "INFO"
  | warning => "WARNING"

end Severity

/-- The parts of the library that report. -/
inductive Reporter where
  | settings
  | registry
  | guard
  | surface
  | throughput
  | context
  | inventory
deriving DecidableEq, Inhabited

/-- The logger that a part reports to. -/
def Reporter.logger : Reporter → String
  | settings => "rocksmetrics.config.settings"
  | registry => "rocksmetrics.metrics.registry"
  | guard => "rocksmetrics.metrics.safe_gauge"
  | surface => "rocksmetrics.metrics.table_metrics"
  | throughput => "rocksmetrics.metrics.throughput_gauges"
  | context => "rocksmetrics.metrics.context"
  | inventory => "rocksmetrics.metrics.introspection"

structure JournalEntry where
  severity : Severity
  reporter : Reporter
  text : String
  event : Option String := none
  fault : Option Fault := none
deriving Inhabited

/-- Entries in the order of their reporting. -/
abbrev Journal := List JournalEntry

end StorageMetrics
