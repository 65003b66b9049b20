import StorageMetrics.Exposition.Family

/-
  Scrape targets: the collectors attached to one of them, in the order of attachment, each with the
  names that it claims. No name is claimed twice. A registry's collector claims none, since its
  families come and go.
-/

namespace StorageMetrics

/-- A gauge or a counter with labels of its own, outside of any registry. -/
structure LabelledSeries where
  isCounter : Bool
  /-- The type that it is exported as. -/
  type : SeriesType
  name : String
  doc : String
  labelNames : List String
  /-- One value per combination of label values, in order of first use. -/
  children : OrderedMap (List String) Float
deriving Inhabited

namespace LabelledSeries

/-- Two underscores start a reserved label name, unless it spans several lines; an empty line at the
end does not count. -/
def isReserved (label : String) : Bool :=
  match label.toList with
  | '_' :: '_' :: rest => (rest.dropWhile (· ≠ '\n')).length ≤ 1
  | _ => false

/-- A series without labels has one value from the start. -/
def ofLabels (isCounter : Bool) (name doc : String) (labelNames : List String) : LabelledSeries :=
  { isCounter := isCounter
    type := if isCounter then .counter else .gauge
    name := name
    doc := doc
    labelNames := labelNames
    children := ⟨if labelNames.isEmpty then [([], 0)] else []⟩ }

/-- The counter of failed gauge evaluations, by gauge. -/
def failures (name : String) : LabelledSeries :=
  ofLabels true name "Gauge evaluations that raised and were reported as the default value" ["gauge"]

/-- One more under this label value; the series must have exactly one label. -/
def increment (s : LabelledSeries) (label : String) : Except Fault LabelledSeries :=
  if s.labelNames.length = 1 then
    .ok { s with children := s.children.insert [label] ((s.children.get? [label]).getD 0 + 1) }
  else .error .labelCount

/-- The names that nothing else on a target may have. -/
def claims (s : LabelledSeries) : List String :=
  if s.isCounter then [s.name, s.name ++ "_total", s.name ++ "_created"] else [s.name]

def family (s : LabelledSeries) : Family :=
  let sampleName := if s.isCounter then s.name ++ "_total" else s.name
  ⟨s.name, s.doc, s.type, s.labelNames,
    s.children.entries.map fun c => ⟨sampleName, s.labelNames.zip c.1, .float c.2⟩⟩

end LabelledSeries

/-- What is said of a target itself, in labels. -/
def Family.ofTarget (labels : SampleLabels) : Family :=
  ⟨"target", "Target metadata", .info, [], [⟨"target_info", labels, .int 1⟩]⟩

/-- What is scraped: a registry, or a labelled series. Both are known by their number in the host. -/
inductive Collector where
  | registry (id : Nat) (exportName : Value)
  | series (id : Nat)
deriving Inhabited

structure Attachment where
  collector : Collector
  claims : List String
deriving Inhabited

/-- The collectors of a target. -/
abbrev Target := List Attachment

namespace Target

def claimed (t : Target) : List String := t.flatMap (·.claims)

/-- Attaches a collector unless one of its names is claimed already. -/
def attach (t : Target) (a : Attachment) : Except Fault Target :=
  if a.claims.any (· ∈ t.claimed) then .error .duplicateNames else .ok (t ++ [a])

/-- The collector that claims a name. -/
def claimant? (t : Target) (name : String) : Option Collector :=
  (t.find? (name ∈ ·.claims)).map (·.collector)

/-- An attachment of a registry with this export name, the same value and not only the same text. -/
def isOf (exportName : Value) (a : Attachment) : Bool :=
  match a.collector with
  | .registry _ n => n.same exportName
  | .series _ => false

/-- Detaches every registry with this export name. -/
def supersede (t : Target) (exportName : Value) : Target := t.filter fun a => !isOf exportName a

/-- The same target, on which a registry goes by another export name. -/
def rename (t : Target) (registry : Nat) (exportName : Value) : Target :=
  t.map fun a =>
    match a.collector with
    | .registry id _ =>
      if id = registry then { a with collector := .registry id exportName } else a
    | .series _ => a

/-- How many registries with this export name are attached. -/
def countOf (t : Target) (exportName : Value) : Nat := (t.filter (isOf exportName)).length

end Target

end StorageMetrics
