import StorageMetrics.Histogram
import StorageMetrics.Fault
import StorageMetrics.Source.Statistics

/-
  Exported families: the samples of all instruments whose labels differ only in spelling or level.
  A family is made for its first member and takes in the reading of each further one; what a member
  adds depends on its own name and reading and on the family's name and label names alone.
-/

namespace StorageMetrics

/-- Label names and values in order. -/
abbrev SampleLabels := List (String × String)

structure Sample where
  name : String
  labels : SampleLabels
  value : Value
deriving Inhabited

structure Family where
  name : String
  doc : String
  series : SeriesType
  labelNames : List String
  samples : List Sample
deriving Inhabited

/-- What one instrument reports in one scrape. -/
inductive Reading where
  | gauge (value : Float)
  | count (value : Int)
  | distribution (contents : Histogram)
  /-- Count and sum, and the three quantiles or why they are missing. -/
  | summary (count sum : Value) (quantiles : Except Fault (List (String × Value)))
deriving Inhabited

namespace Family

def totalSuffix : List Char := "_total".toList

/-- A name without `_total` at its end, once. -/
def dropTotal (name : String) : String :=
  let cs := name.toList
  if totalSuffix.isSuffixOf cs then String.ofList (cs.take (cs.length - totalSuffix.length))
  else name

/-- Every sample carries the keyspace and the scope, and the level where the label has one. -/
def labelNamesFor (leveled : Bool) : List String :=
  if leveled then ["keyspace", "scope", "level"] else ["keyspace", "scope"]

/-- The family that the first member asks for. A counter family is known without `_total`, and no
family has an empty name. -/
def ofMember (key : String) (series : SeriesType) (label : String) : Except Fault Family :=
  let name := if series = .counter then dropTotal key else key
  if name = "" then .error .emptyFamilyName
  else .ok ⟨name, "Rocksdb " ++ Label.base label, series,
    labelNamesFor (Label.level? label).isSome, []⟩

/-- The label values of a member: its keyspace, its table, and its level where it has one. -/
def labelValues (keyspace table : String) (label : String) : List String :=
  keyspace :: table :: (Label.level? label).toList

/-- The samples of a reading in a family of this name; `labels` are the family's, `own` the member's. -/
def readingSamples (name : String) (labels own : SampleLabels) : Reading → List Sample
  | .gauge x => [⟨name, labels, .float x⟩]
  | .count n => [⟨name ++ "_total", labels, .int n⟩]
  | .distribution h =>
    let count (n : Nat) : Value := .float (Float.ofNat n)
    (h.buckets.map fun b => ⟨name ++ "_bucket", labels ++ [("le", b.1)], count b.2⟩) ++
      (if h.isSummed then
        [⟨name ++ "_count", labels, count h.count⟩, ⟨name ++ "_sum", labels, h.total⟩]
      else [])
  | .summary count sum quantiles =>
    ⟨name ++ "_count", labels, count⟩ :: ⟨name ++ "_sum", labels, sum⟩ ::
      match quantiles with
      | .ok qs => qs.map fun q => ⟨name, own ++ [("quantile", q.1)], q.2⟩
      | .error _ => []

/-- The samples that a member adds. -/
def memberSamples (f : Family) (keyspace table label : String) (r : Reading) : List Sample :=
  let values := labelValues keyspace table label
  readingSamples f.name (f.labelNames.zip values)
    ((labelNamesFor (Label.level? label).isSome).zip values) r

def add (f : Family) (keyspace table label : String) (r : Reading) : Family :=
  { f with samples := f.samples ++ f.memberSamples keyspace table label r }

end Family

namespace Reading

/-- What went wrong after a part of the reading was had. -/
def fault? : Reading → Option Fault
  | summary _ _ (.error e) => some e
  | _ => none

/-- The reading of a snapshot: count and sum are needed for any sample, the quantiles come after. -/
def ofSnapshot (s : Option Snapshot) : Except Fault Reading :=
  match s with
  | none => .error .noPart
  | some s =>
    match s.measure? .count, s.measure? .sum with
    | some n, some total =>
      .ok (.summary n total
        (match s.measure? .median, s.measure? .percentile95, s.measure? .percentile99 with
        | some a, some b, some c => .ok [("0.5", a), ("0.95", b), ("0.99", c)]
        | _, _, _ => .error .noPart))
    | _, _ => .error .noPart

end Reading

/-- Families under construction, by the key that their members share. -/
abbrev FamilyTable := OrderedMap String Family

namespace FamilyTable

/-- Makes the member's family unless it is there. -/
def ensure (t : FamilyTable) (key : String) (series : SeriesType) (label : String) :
    Except Fault FamilyTable :=
  if t.contains key then .ok t
  else do
    let f ← Family.ofMember key series label
    return t.insert key f

/-- Adds a member's reading to its family. -/
def addReading (t : FamilyTable) (key keyspace table label : String) (r : Reading) : FamilyTable :=
  match t.get? key with
  | some f => t.insert key (f.add keyspace table label r)
  | none => t

end FamilyTable

end StorageMetrics
