import StorageMetrics.Host.Surface

/-
  Contexts: the collaborators that all tables of a process share, and the anchor that publishes one
  context for the whole process. A published context stays until it is cleared; an isolated block
  starts without one and leaves behind the one that it found.
-/

namespace StorageMetrics

/-- What is published as the context of the process. -/
abbrev Anchor := Option Item

namespace Anchor

/-- An item as it is published; a missing value is no context. -/
def ofItem : Item → Anchor
  | .value .none => none
  | item => some item

/-- The first publication counts. -/
def publish (a context : Anchor) : Anchor :=
  match a with
  | some c => some c
  | none => context

/-- What is published when a block that found `saved` is left. -/
def leave (saved : Anchor) : Anchor :=
  match saved with
  | some c => publish none (some c)
  | none => none

theorem leave_eq (saved : Anchor) : leave saved = saved := by
  cases saved <;> rfl

end Anchor

namespace Host

def outgoingLabel : String := "RocksdbOutgoingThroughput"
def incomingLabel : String := "RocksdbIncomingThroughput"

def outgoingName : MetricName := TableScope.all.name outgoingLabel
def incomingName : MetricName := TableScope.all.name incomingLabel

def alreadyRegisteredEntry : JournalEntry :=
  { severity := .debug, reporter := .throughput
    text := "metrics.throughput_gauges.already_registered" }

/-- The registry among all that names can be looked for in. -/
def registryAmong (item : Item) : Action Nat := do
  if !(← item.isContainer) then throw (.number .wrongKind)
  if (← isBound item outgoingName) && (← isBound item incomingName) then
    Action.report alreadyRegisteredEntry
  Action.part item.asRegistry

/-- What a gauge asks a source of throughput with, from now on whatever is put in its place. -/
def rateQuery (flow : Item) (d : Direction) : Action Query := do
  flow.require d.partName
  match ← flow.mark? d.partName with
  | some marked => return .thing marked
  | none => return .rate flow d

/-- The gauges of both rates, registered or found. -/
def registerThroughput (item flow : Item) : Action (Handle × Handle) := do
  let registry ← registryAmong item
  let outgoing ← registerGauge registry outgoingName (← rateQuery flow .outgoing)
    "Failed to get outgoing throughput"
  let incoming ← registerGauge registry incomingName (← rateQuery flow .incoming)
    "Failed to get incoming throughput"
  return (outgoing, incoming)

/-- What a context is made from; a missing registry or flow is made with it. -/
structure ContextRequest where
  engine : Item
  registry : Option Item
  flow : Option Item
  settings : Option Settings

def createdEntry (exportName : Value) (levels : Int) : JournalEntry :=
  { severity := .debug, reporter := .context
    text := "metrics.context.created namespace=" ++ exportName.plain ++ " max_levels=" ++
      toString levels }

/-- Reports a new context. Levels that are no whole number fail where the report is written out. -/
def reportCreated (exportName : Value) (s : Settings) : Action Unit := do
  match s.maxLevels.toInt with
  | .ok n => Action.report (createdEntry exportName n)
  | .error e => if (← get).writes .debug then throw (.number e)

/-- A registry on a target of its own. -/
def addPrivateRegistry (exportName : Value) : Action Nat := do addRegistry exportName (← addTarget)

/-- A tracker over this span. -/
def addTracker (span : Value) : Action Nat := do
  addTrackerOf (← Action.ofExcept ((Throughput.ofSpan span).mapError .throughput))

def createContext (r : ContextRequest) : Action Item := do
  let settings := r.settings.getD Settings.standard
  let registry ← match r.registry with
    | some item => pure item
    | none => do pure (.registry (← addPrivateRegistry (.str settings.exportName)))
  let flow ← match r.flow with
    | some item => pure item
    | none => do pure (.tracker (← addTracker settings.windowSeconds))
  let (outgoing, incoming) ← registerThroughput registry flow
  let id ← Action.part registry.asRegistry
  reportCreated (← getRegistry id).registry.exportName settings
  let context ← addContext ⟨settings, r.engine, id, flow, outgoing, incoming⟩
  if r.registry.isNone then
    settle (← (Item.settings context).part "namespace") (.part registry "namespace")
  if r.flow.isNone && settings.windowSeconds matches .float _ then
    settle (← (Item.settings context).part "throughput_window_seconds") (.part flow "window_seconds")
  return .context context

/-! ## What contexts have -/

/-- What a context shows of itself. -/
structure ContextView where
  exportName : Value
  size : Nat
  settings : Settings
  span : Value

/-- Shows a context. -/
def viewContext (item : Item) : Action ContextView := do
  let c ← getContext (← Action.part item.asContext)
  requireOwn item "registry" "namespace"
  let size ← (Item.registry c.registry).size
  requireOwn item "settings" "max_levels"
  let flow ← item.part "throughput"
  return ⟨(← getRegistry c.registry).registry.exportName, size, c.settings, ← span flow⟩

/-- What a context gives to the surfaces of its tables. -/
structure Collaborators where
  engine : Item
  registry : Item
  settings : Except Fault Settings

/-- What a context gives to the surfaces of its tables. In the place of its settings a missing value
stands for the usual ones, and any other has no levels. -/
def collaborators (item : Item) : Action Collaborators := do
  let c ← getContext (← Action.part item.asContext)
  item.requireUnmarked "table_metrics"
  let settings : Except Fault Settings ← match ← item.markedValue? "settings" with
    | some v => pure (if v.isPresent then .error .noPart else .ok Settings.standard)
    | none => pure (.ok c.settings)
  return ⟨← item.part "engine", ← item.part "registry", settings⟩

/-! ## The anchor -/

def published : Action Anchor := do return (← get).anchor

def clearAnchor : Action Unit := modify fun h => { h with anchor := none }

/-- Publishes a context unless one is published; gives the published one. -/
def publish (context : Item) : Action Anchor := fun h =>
  let anchor := Anchor.publish h.anchor (Anchor.ofItem context)
  .ok anchor { h with anchor := anchor }

/-- The published context; the factory runs, and its context is published, only where there is none. -/
def createIfAbsent (factory : Action Item) : Action Anchor := do
  match ← published with
  | some c => return some c
  | none =>
    let made := Anchor.ofItem (← factory)
    modify fun h => { h with anchor := made }
    return made

/-- The context of the process. The first use needs an engine. -/
def processContext (engine : Option Item) (make : Item → Action Item) : Action Anchor := do
  match ← published with
  | some c => return some c
  | none =>
    match engine with
    | none => throw .noContext
    | some e => createIfAbsent (make e)

/-- Runs a block on a fresh registry and without a published context; afterwards the anchor holds
what it held before, however the block ended. -/
def isolated (exportName : Value) (body : Nat → Host → α × Host) : Action α := fun h =>
  let saved := h.anchor
  let restore (h : Host) : Host := { h with anchor := Anchor.leave saved }
  match addPrivateRegistry exportName { h with anchor := none } with
  | .ok registry h =>
    let (a, h) := body registry h
    .ok a (restore h)
  | .error e h => .error e (restore h)

end Host

end StorageMetrics
