import StorageMetrics.Host.Strays

/-
  Keeping things for their identity. A thing is kept from the first time on that somebody asks for
  it. What changes a kept thing changes it in its home as well, as long as it still lives there.
-/

namespace StorageMetrics.Host

/-! ## Things -/

def keepUnder (homes : List Home) (c : Content) : Action Item := fun h =>
  .ok (.kept h.kept.size) { h with kept := h.kept.push ⟨c, homes⟩ }

/-- A thing made for whoever asks. -/
def keepNew (c : Content) : Action Item :=
  match c with
  | .plain v => if v.isShared then return .value v else keepUnder [] c
  | c => keepUnder [] c

/-- From now on something else is at a home. -/
def vacate (home : Home) : Action Unit :=
  modify fun h => { h with kept := h.kept.map (·.leave home) }

/-- From now on this is at a home, wherever it is besides. -/
def settle (item : Item) (home : Home) : Action Unit := do
  match item with
  | .kept id =>
    vacate home
    modify fun h => { h with kept := h.kept.setIfInBounds id ((h.kept[id]?.getD default).settle home) }
  | _ => return ()

/-- The thing that lives at a home, as long as it is this one. -/
def keepLiving (home : Home) (c : Content) : Action Item := do
  match (← get).kept.findIdx? (·.livesAt home) with
  | none => keepUnder [home] c
  | some id =>
    if (← getKept id).content.alike c then return .kept id
    vacate home
    keepUnder [home] c

/-- The thing at a home, which is this. -/
def keepAt (home : Home) (c : Content) : Action Item :=
  match c with
  | .plain v => if v.isShared then return .value v else keepLiving home c
  | c => keepLiving home c

/-- From now on something else is under a key that is a whole number. -/
def vacateEntry (owner : Item) (key : Value) : Action Unit := do
  match key.number?.map Number.truncate with
  | some (.ok n) => if key.same (.int n) then vacate (.part owner (toString n))
  | _ => return ()

/-- From now on something else is under every key of a dictionary. -/
def vacateEntries (owner : Item) : Action Unit :=
  modify fun h => { h with kept := h.kept.map (·.leaveAll owner) }

/-! ## Changes -/

/-- From now on a registry has this export name, on its target too. -/
def renameRegistry (id : Nat) (exportName : Value) : Action Unit := do
  let r ← getRegistry id
  setRegistry id { r with registry := { r.registry with exportName := exportName } }
  setTarget r.target ((← getTarget r.target).rename id exportName)

def setBiased (h : Handle) (v : Value) : Action Unit := do
  match ← getInstrument h with
  | .histogram contents => setInstrument h (.histogram { contents with biased := v })
  | _ => return ()

def setTotalValue (h : Handle) (v : Value) : Action Unit := do
  match ← getInstrument h with
  | .counter _ => setInstrument h (.counter v)
  | .histogram contents => setInstrument h (.histogram { contents with total := v })
  | _ => return ()

/-- Changes the queries of the gauges that were made with a surface. -/
def changeQueries (id : Nat) (change : Query → Query) : Action Unit := do
  let s ← getSurface id
  let earlier := ((← get).surfaces.toList.take id).flatMap (·.gauges)
  s.gauges.forM fun h => do
    match ← getInstrument h with
    | .gauge query guard =>
      if earlier.all (·.id ≠ h.id) then setInstrument h (.gauge (change query) guard)
    | _ => return ()

/-- From now on a table goes by another id, also for the gauges that were made with its surface. -/
def identifyTable (id : Nat) (v : Value) : Action Unit := do
  setSurface id { (← getSurface id) with tableId := v }
  changeQueries id (·.about v)

/-- Puts a changed thing into its home. -/
def bringHome (owner : Item) (name : String) (c : Content) : Action Unit := do
  match owner, name, c with
  | .engine id, "fail_all", .plain v => changeEngine id fun e => .ok { e with failing := v }
  | .engine id, "failing_levels", .keys xs => changeEngine id fun e => .ok { e with failingLevels := xs }
  | .registry id, "namespace", .plain v => renameRegistry id v
  | .instrument h, "biased", .plain v => setBiased h v
  | .total h, "_value", .plain v => setTotalValue h v
  | .table id, "table_id", .plain v => identifyTable id v
  | .settings id, "strict", .plain v =>
    let context ← getContext id
    setContext id { context with settings := { context.settings with strict := v } }
  | .store kind id, name, .plain v =>
    match Decimal.readInt name with
    | .ok n => putEntry kind id (.int n) v
    | .error _ => return ()
  | _, _, _ => return ()

/-- Changes a kept thing, and what it is a member of, which was kept before it. -/
def changeKept (id : Nat) (c : Content) : Action Unit := do
  let k ← getKept id
  modify fun h => { h with kept := h.kept.setIfInBounds id { k with content := c } }
  k.homes.forM fun home => do
    match home, c with
    | .part (.kept whole) name, .plain v =>
      if whole < id then changeKept whole ((← getKept whole).content.setMember name v)
    | .part owner name, c => bringHome owner name c
    | .constant _, _ => return ()
termination_by id

end StorageMetrics.Host

namespace StorageMetrics.Item

/-- What is known of an item without regard to its identity, where that is all there is to it. -/
def content? : Item → Action (Option Content)
  | kept id => do return some (← Host.getKept id).content
  | value v => return some (.plain v)
  | _ => return none

/-- The name of the kind, as refusals show it. -/
def kindName : Item → Action String
  | statistics _ => return "FakeStatistics"
  | engine _ => return "FakeEngine"
  | tracker _ => return "ThroughputManager"
  | window .. => return "_Window"
  | rates .. => return "SimpleNamespace"
  | registry _ => return "MetricsRegistry"
  | collector _ => return "_RegistryCollector"
  | target _ => return "CollectorRegistry"
  | series _ => return "Counter"
  | context _ => return "RocksMetricsContext"
  | surface _ => return "RocksDBTableMetrics"
  | instrument handle | inner handle => return handle.kind.text
  | total _ => return "MutexValue"
  | store kind _ => return kind.kindName
  | scope _ => return "RocksMetricNameFactory"
  | table _ => return "TableIdentity"
  | name .. => return "MetricName"
  | settings _ => return "RocksMetricsSettings"
  | metricKind _ => return "MetricKind"
  | statSource s => return if s.isHistogram then "HistogramType" else "TickerType"
  | parts _ => return "dict"
  | kept id => do return (← Host.getKept id).content.kindName
  | value v => return v.kindName

end StorageMetrics.Item
