import StorageMetrics.EnvFile
import StorageMetrics.Files.Basic
import StorageMetrics.Histogram
import StorageMetrics.Registry.Basic
import StorageMetrics.Settings.Basic
import StorageMetrics.Source.Engine
import StorageMetrics.Throughput

/-
  Faults: every way in which an operation of the library can fail, by cause.
-/

namespace StorageMetrics

inductive Fault where
  | number (reason : NumberError)
  | name (reason : NameError)
  | setting (reason : SettingError)
  | registration (reason : RegistrationError)
  | histogram (reason : HistogramError)
  | throughput (reason : ThroughputError)
  | engine (reason : EngineError)
  | envFile (reason : EnvFile.SetError)
  | file (reason : FileError)
  /-- A cell that was told to fail. -/
  | cell (message : String)
  /-- A cell that nobody set. -/
  | noCell (name : String)
  /-- A series is said to be of a type that there is not. -/
  | seriesType (given : String)
  /-- A counter is asked to fall. -/
  | decrease
  /-- A value is asked for a part that it has not. -/
  | noPart
  /-- A list is asked for a member that it has not. -/
  | noMember
  /-- A dictionary or a set is asked for a key that it has not. -/
  | noEntry
  /-- A value is to be taken out of a list or the like that does not hold it. -/
  | notHeld (kind : String)
  /-- A lock that nobody holds is to be released. -/
  | notLocked (reentrant : Bool)
  /-- A record that cannot be changed is to be marked. -/
  | unchangeable
  /-- What is to stand under a key is no pair of key and value, but of another length. -/
  | notAPair (index length : Nat)
  /-- A scope that names no table is asked for it. -/
  | noTable
  /-- The name of an exported family is empty. -/
  | emptyFamilyName
  /-- The name of a collector is empty. -/
  | emptyCollectorName
  /-- A label has a name that is kept for internal use. -/
  | reservedLabel (name : String)
  /-- A collector claims a name that another one on the same target has. -/
  | duplicateNames
  /-- A labelled series is asked for another number of labels than it has. -/
  | labelCount
  /-- A labelled series is asked to count without a label. -/
  | unlabelledCount (series : String)
  /-- A series without labels is asked to forget one of them. -/
  | noLabels (series : String)
  /-- A series is asked to forget another number of labels than it has. -/
  | forgottenLabels (count : Nat) (given : String)
  | missingFamily (family : String)
  /-- The process context is asked for before it was made. -/
  | noContext
  /-- Nothing is known under this number. -/
  | unknown
deriving Inhabited

namespace Fault

/-- The wording of a fault; some have none. -/
def message : Fault → Option String
  | number e => e.message
  | name e => some e.message
  | setting e => e.message
  | registration e => some e.message
  | histogram e => e.message
  | throughput e => e.message
  | engine e => e.message
  | envFile e => some e.message
  | file e => some e.message
  | cell m => some m
  | noCell _ => none
  | seriesType given => some ("Invalid metric type: " ++ given)
  | decrease => some "Counters can only be incremented by non-negative amounts."
  | noPart => none
  | noMember => none
  | noEntry => none
  | notHeld kind => some (kind ++ ".remove(x): x not in " ++ kind)
  | notLocked reentrant => some
      (if reentrant then "cannot release un-acquired lock" else "release unlocked lock")
  | unchangeable => none
  | notAPair index length => some ("dictionary update sequence element #" ++ toString index ++
      " has length " ++ toString length ++ "; 2 is required")
  | noTable => none
  | emptyFamilyName => some "metric name cannot be empty"
  | emptyCollectorName => some "Metric name should not be empty"
  | reservedLabel n => some ("Reserved label metric name: " ++ n)
  | duplicateNames => none
  | labelCount => some "Incorrect label count"
  | unlabelledCount series => some (series ++ " metric is missing label values")
  | noLabels series => some ("No label names were set when constructing " ++ series)
  | forgottenLabels count given => some ("Incorrect label count (expected " ++ toString count ++
      ", got " ++ given ++ ")")
  | missingFamily _ => none
  | noContext => some
      "rocksmetrics context not initialized; pass the engine accessor on first use"
  | unknown => none

end Fault

end StorageMetrics
