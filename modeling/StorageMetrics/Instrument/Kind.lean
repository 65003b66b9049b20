import StorageMetrics.Catalog

/-
  Kinds of instruments, and the type of series that each is exported as.
-/

namespace StorageMetrics

/-- Gauges and the two kinds that read engine statistics are polled; counters and histograms are
written by their owners. -/
inductive InstrumentKind where
  | gauge
  | counter
  | statsCounter
  | histogram
  | statsHistogram
deriving DecidableEq, Inhabited

/-- The type of an exported family. Instruments are exported as the first four. -/
inductive SeriesType where
  | gauge
  | counter
  | histogram
  | summary
  | gaugeHistogram
  | info
  | stateSet
  | unknown
deriving DecidableEq, Inhabited

namespace SeriesType

def all : List SeriesType :=
  [gauge, counter, histogram, summary, gaugeHistogram, info, stateSet, unknown]

def text : SeriesType → String
  | gauge => "gauge"
  | counter => "counter"
  | histogram => "histogram"
  | summary => "summary"
  | gaugeHistogram => "gaugehistogram"
  | info => "info"
  | stateSet => "stateset"
  | unknown => "unknown"

/-- The type that is meant by a word. An untyped series is one of unknown type. -/
def ofText? (s : String) : Option SeriesType :=
  if s = "untyped" then some unknown else all.find? (·.text = s)

end SeriesType

namespace InstrumentKind

/-- The name that refusals give the kind. -/
def text : InstrumentKind → String
  | gauge => "Gauge"
  | counter => "Counter"
  | statsCounter => "StatsCounter"
  | histogram => "Histogram"
  | statsHistogram => "StatsHistogram"

/-- Engine histograms come as quantiles, so they are exported as summaries. -/
def series : InstrumentKind → SeriesType
  | gauge => .gauge
  | counter => .counter
  | statsCounter => .counter
  | histogram => .histogram
  | statsHistogram => .summary

def metricKind : InstrumentKind → MetricKind
  | gauge => .gauge
  | counter => .counter
  | statsCounter => .counter
  | histogram => .histogram
  | statsHistogram => .histogram

end InstrumentKind

/-- What the members of one family share: the type of series, and whether they carry a level. -/
structure Shape where
  series : SeriesType
  leveled : Bool
deriving DecidableEq, Inhabited

/-- An instrument as a registry knows it: its identity and its kind. -/
structure Handle where
  id : Nat
  kind : InstrumentKind
deriving DecidableEq, Inhabited

end StorageMetrics
