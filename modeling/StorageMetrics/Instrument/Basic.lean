import StorageMetrics.Histogram
import StorageMetrics.Item
import StorageMetrics.Throughput

/-
  Instruments: gauges that ask a source whenever they are polled, the counters and histograms that
  their owners write, and the two kinds that read one statistic of one engine instance.
-/

namespace StorageMetrics

/-- Where a gauge gets its value. Any item may have been given for an engine or a source of rates. -/
inductive Query where
  /-- A named cell that the embedding program keeps. -/
  | cell (name : String)
  | levelCount (engine : Item) (table : Value) (level : Nat)
  | pendingBytes (engine : Item) (table : Value)
  | liveBytes (engine : Item) (table : Value)
  | rate (flow : Item) (direction : Direction)
  /-- Something in the place of a question that cannot be asked. -/
  | thing (item : Item)
deriving Inhabited

/-- The same query about another table. -/
def Query.about (table : Value) : Query → Query
  | levelCount engine _ level => levelCount engine table level
  | pendingBytes engine _ => pendingBytes engine table
  | liveBytes engine _ => liveBytes engine table
  | q => q

/-- The same query to another engine, where it is about a level. -/
def Query.via (engine : Item) : Query → Query
  | levelCount _ table level => levelCount engine table level
  | q => q

/-- What happens when a query fails: a warning, one more failure under the gauge's identity, and a
default reading. -/
structure Guard where
  fallback : Value
  message : Value
  identity : Value
  /-- The counter of failures, when there is one that can count. -/
  failures : Option Nat
deriving Inhabited

namespace Guard

/-- The identity is the first that is present of a name, the query's own name and a placeholder. -/
def identify (name : Value) (queryName : Option String) : Value :=
  if name.isPresent then name else .str (queryName.getD "<gauge>")

def standardMessage : Value := .str "Gauge evaluation failed"

end Guard

/-- Any item may have been given for statistics. -/
inductive Instrument where
  | gauge (query : Query) (guard : Option Guard)
  | counter (total : Value)
  | statsCounter (statistics : Item) (stat : TickerStat)
  | histogram (contents : Histogram)
  | statsHistogram (statistics : Item) (stat : HistogramStat)
deriving Inhabited

namespace Instrument

def kind : Instrument → InstrumentKind
  | gauge .. => .gauge
  | counter .. => .counter
  | statsCounter .. => .statsCounter
  | histogram .. => .histogram
  | statsHistogram .. => .statsHistogram

/-- The instrument behind a catalog entry: it reads the entry's statistic of one engine instance. -/
def ofSource (statistics : Item) : StatSource → Instrument
  | .histogram stat => .statsHistogram statistics stat
  | .ticker stat => .statsCounter statistics stat

end Instrument

/-- The total of a counter after an increment of at least zero; NaN is not below zero. -/
def Counter.increase (total amount : Value) : Except NumberError (Option Value) := do
  let n ← amount.number
  if n < .int 0 then return none
  return some (← total.grow amount)

/-- What a counter starts from. -/
def Counter.start : Value := .float 0

end StorageMetrics
