import StorageMetrics.OrderedMap
import StorageMetrics.Statistic
import StorageMetrics.Value

/-
  The statistics object of one engine instance: its tickers and the latest snapshot of each of its
  histograms. It counts how often it is read.
-/

namespace StorageMetrics

/-- What a snapshot measures. -/
inductive Measure where
  | median
  | percentile95
  | percentile99
  | average
  | standardDeviation
  | max
  | count
  | sum
deriving DecidableEq, Inhabited

namespace Measure

def all : List Measure :=
  [.median, .percentile95, .percentile99, .average, .standardDeviation, .max, .count, .sum]

def text : Measure → String
  | median => "median"
  | percentile95 => "percentile95"
  | percentile99 => "percentile99"
  | average => "average"
  | standardDeviation => "standard_deviation"
  | max => "max"
  | count => "count"
  | sum => "sum"

def ofText? (s : String) : Option Measure := all.find? (·.text = s)

/-- What a snapshot of nothing measures. -/
def zero : Measure → Value
  | count => .int 0
  | _ => .float 0

end Measure

/-- A snapshot of one histogram: values by name. A complete one holds the measures and nothing else;
any other may lack some of them and hold more. -/
abbrev Snapshot := OrderedMap String Value

namespace Snapshot

/-- The snapshot of a histogram that nothing was added to. -/
def zero : Snapshot := ⟨Measure.all.map fun m => (m.text, m.zero)⟩

/-- A complete snapshot, zero where no value is given; values can be given for measures only. -/
def complete? (given : List (String × Value)) : Option Snapshot :=
  if given.all fun g => (Measure.ofText? g.1).isSome then
    some (given.foldl (fun s g => s.insert g.1 g.2) zero)
  else none

def measure? (s : Snapshot) (m : Measure) : Option Value := s.get? m.text

end Snapshot

structure Statistics where
  /-- A histogram may be present without a snapshot. -/
  histograms : OrderedMap HistogramStat (Option Snapshot) := {}
  tickers : OrderedMap TickerStat Value := {}
  histogramReads : Nat := 0
  tickerReads : Nat := 0
deriving Inhabited

namespace Statistics

/-- The snapshot of a histogram; an empty one where none was taken yet. -/
def snapshot (s : Statistics) (stat : HistogramStat) : Option Snapshot :=
  (s.histograms.get? stat).getD (some Snapshot.zero)

/-- The count of a ticker; zero where it never ticked. -/
def ticker (s : Statistics) (stat : TickerStat) : Value := (s.tickers.get? stat).getD (.int 0)

def setSnapshot (s : Statistics) (stat : HistogramStat) (snapshot : Option Snapshot) : Statistics :=
  { s with histograms := s.histograms.insert stat snapshot }

def setTicker (s : Statistics) (stat : TickerStat) (count : Value) : Statistics :=
  { s with tickers := s.tickers.insert stat count }

end Statistics

/-- The two questions that statistics answer and count. -/
inductive StatQuery where
  | ticker
  | snapshot
deriving DecidableEq, Inhabited

namespace StatQuery

/-- The part that is asked. -/
def partName : StatQuery → String
  | ticker => "get_ticker_count"
  | snapshot => "get_histogram_data"

/-- The part that counts the questions. -/
def countName : StatQuery → String
  | ticker => "ticker_reads"
  | snapshot => "histogram_reads"

/-- The part that keeps the answers. -/
def storeName : StatQuery → String
  | ticker => "tickers"
  | snapshot => "histograms"

/-- The question is counted. -/
def count (q : StatQuery) (s : Statistics) : Statistics :=
  match q with
  | ticker => { s with tickerReads := s.tickerReads + 1 }
  | snapshot => { s with histogramReads := s.histogramReads + 1 }

end StatQuery

end StorageMetrics
