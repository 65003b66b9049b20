import StorageMetrics.Host.Reading
import StorageMetrics.Host.Registration

/-
  Scrapes: a registry's families are built from its bindings in order, each instrument read on its
  turn. An instrument that fails to read is reported and left out of this scrape; the others are
  not touched by it. A target's families are those of its collectors, one after the other.
-/

namespace StorageMetrics.Host

def readFailedEntry (name : MetricName) (e : Fault) : JournalEntry :=
  { severity := .warning, reporter := .registry
    text := "metrics.collect.read_failed name=" ++ name.flat, fault := some e }

/-- The table part of the scope of a registry's member, and its reading. -/
def readMember (id : Nat) (name : MetricName) (h : Handle) : Action (String × Reading) := do
  (Item.registry id).requireUnmarked "_add_sample"
  match name.table? with
  | none => throw .noTable
  | some table => return (table, ← read h)

/-- Adds one member of a registry to the families under construction. -/
def scrapeMember (id : Nat) (t : FamilyTable) (name : MetricName) (h : Handle) :
    Action FamilyTable := do
  let item := Item.registry id
  item.requireUnmarked "family_name"
  let exportKey := (← getRegistry id).registry.family name.name
  if !t.contains exportKey then item.requireUnmarked "_new_family"
  let t ← Action.ofExcept (t.ensure exportKey h.kind.series name.name)
  match ← (readMember id name h).outcome with
  | .error e =>
    Action.report (readFailedEntry name e)
    return t
  | .ok (table, reading) =>
    match reading.fault? with
    | some e => Action.report (readFailedEntry name e)
    | none => pure ()
    return t.addReading exportKey name.keyspace table name.name reading

def scrapeMembers (id : Nat) : List (MetricName × Handle) → FamilyTable → Action FamilyTable
  | [], t => return t
  | (name, h) :: rest, t => do scrapeMembers id rest (← scrapeMember id t name h)

/-- The collector of a registry is asked for its families. -/
def requireFamilies (id : Nat) : Action Unit := do
  (Item.collector id).requireUnmarked "collect"
  requireOwn (.collector id) "_owner" "_build_families"
  (Item.registry id).requireUnmarked "_build_families"
  requireBindings id "items" "items"

/-- The families of a registry. -/
def scrapeRegistry (id : Nat) : Action (List Family) := do
  requireFamilies id
  let own := (← getRegistry id).registry.bindings.entries
  let t ← scrapeMembers id (← entriesAhead .bindings id own) {}
  requireNames id
  return t.values

/-- A series cannot be gone through once something was put among its children. -/
def requireChildren (id : Nat) : Action Unit := do
  (Item.series id).requireUnmarked "collect"
  requireDescription (.series id)
  (Item.series id).requireUnmarked "_lock"
  requireOwn (.series id) "_metrics" "items"
  match ← straysOf .children id with
  | [] => return ()
  | (labels, _) :: _ => throw (if labels.members?.isNone then .number .wrongKind else .noPart)

/-- A target cannot be gone through to its end once something was put among its collectors. -/
def requireCollectors (id : Nat) : Action Unit := do
  if !(← straysOf .collectors id).isEmpty then throw .noPart

def scrapeCollector : Collector → Action (List Family)
  | .registry id _ => scrapeRegistry id
  | .series id => do
    requireChildren id
    return [(← getSeries id).family]

def scrapeAll : Target → Action (List Family)
  | [] => return []
  | a :: rest => do
    let families ← scrapeCollector a.collector
    return families ++ (← scrapeAll rest)

/-- The collectors of a target that are gone through. -/
def collectorsOf (target : Nat) : Action Target := do
  let item := Item.target target
  item.requireAllUnmarked ["collect", "_lock"]
  match ← item.markedValue? "_collector_to_names" with
  | some v =>
    if !(← Action.ofExcept (v.members.mapError .number)).isEmpty then throw .noPart
    return []
  | none => entriesAhead .collectors target (← getTarget target)

/-- What is said of a target itself, where something is. -/
def targetFamilies (target : Nat) : Action (List Family) := do
  match ← (Item.target target).markedValue? "_target_info" with
  | some (.mapping (e :: rest)) =>
    return [Family.ofTarget ((e :: rest).map fun e => (e.1.plain, e.2.plain))]
  | _ => return []

/-- Everything that a target exports. -/
def scrape (target : Nat) : Action (List Family) := do
  let collectors ← collectorsOf target
  let families ← scrapeAll collectors
  requireCollectors target
  return (← targetFamilies target) ++ families

/-- What a sample is looked for by: labels and the values that they have to have. -/
abbrev WantedLabels := List (String × Value)

/-- The same labels with the same values, in whatever order. -/
def sameLabels (a : SampleLabels) (b : WantedLabels) : Bool :=
  a.length = b.length && a.all fun l => (b.lookup l.1).any (·.same (.str l.2))

def findSample (name : String) (labels : WantedLabels) (families : List Family) : Option Value :=
  ((families.flatMap (·.samples)).find? fun s => s.name = name && sameLabels s.labels labels).map
    (·.value)

/-- The first sample of this name and labels; collectors after it are not read. -/
def sampleOf (name : String) (labels : WantedLabels) : Target → Action (Option Value)
  | [] => return none
  | a :: rest => do
    match findSample name labels (← scrapeCollector a.collector) with
    | some v => return some v
    | none => sampleOf name labels rest

/-- The part by which an item is asked for a sample. -/
def samplePart : String := "get_sample_value"

def sample (target : Nat) (name : String) (labels : WantedLabels) : Action (Option Value) := do
  (Item.target target).requireUnmarked samplePart
  let collectors ← collectorsOf target
  if let some v := findSample name labels (← targetFamilies target) then return some v
  let found ← sampleOf name labels collectors
  if found.isNone then requireCollectors target
  return found

/-- The target behind an item, which is asked for a sample or goes with the item. -/
def targetBehind (item : Item) (part : String) : Action Nat := do
  match item with
  | .target id => return id
  | .registry id =>
    if part = samplePart then item.requireUnmarked part
    requireOwn item "_collector_registry" (if part = samplePart then part else "collect")
    return (← getRegistry id).target
  | item => if part = samplePart then askPart item part else throw .noPart

end StorageMetrics.Host
