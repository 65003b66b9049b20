import StorageMetrics.Host.Families
import StorageMetrics.Registry.Inventory
import StorageMetrics.Text.Json

/-
  Registries in the host: making one on a target, binding and unbinding instruments, and writing
  its inventory. A new registry takes the place of an earlier one with the same export name on the
  same target and goes on with that one's failure counter.
-/

namespace StorageMetrics.Host

def supersededEntry (exportName : Value) : JournalEntry :=
  { severity := .info, reporter := .registry
    text := "metrics.registry.superseded namespace=" ++ exportName.plain
    event := some "metrics.registry.superseded" }

def reuseCollectorEntry (name : String) : JournalEntry :=
  { severity := .debug, reporter := .registry
    text := "metrics.registry.reuse_collector name=" ++ name }

def failureCounterName (exportName : Value) : String :=
  exportName.plain ++ "_gauge_evaluation_failures"

/-! ## Targets -/

/-- The names that are taken on a target by what is no collector of it. -/
def takenNames (target : Nat) : Action (List Value) := do
  match ← (Item.target target).markedValue? "_names_to_collectors" with
  | some v =>
    let names ← Action.ofExcept (v.members.mapError .number)
    if names.all Value.isKey then return names else throw (.number .wrongKind)
  | none => return (← straysOf .claims target).map (·.1)

/-- Attaches a collector to a target, unless one of its names is taken there. -/
def attach (target : Nat) (a : Attachment) : Action Unit := do
  let item := Item.target target
  item.requireAllUnmarked ["register", "_lock", "_get_names"]
  let taken ← takenNames target
  if a.claims.any fun name => taken.any (·.same (.str name)) then throw .duplicateNames
  if !a.claims.isEmpty then item.requireUnmarked "_names_to_collectors"
  setTarget target (← Action.ofExcept ((← getTarget target).attach a))
  item.requireUnmarked "_collector_to_names"

/-- The failure counter of an export name on a target: a new one, or the counter that has the
name. -/
def failureCounter (target : Nat) (exportName : Value) : Action Nat := do
  let name := failureCounterName exportName
  let series := LabelledSeries.failures name
  match ← (attach target ⟨.series (← get).series.size, series.claims⟩).outcome with
  | .ok () => addSeries series
  | .error .duplicateNames =>
    requireOwn (.target target) "_names_to_collectors" "get"
    let claimant := (← getTarget target).claimant? name
    match ← stray? .claims target (.str name), claimant with
    | none, some (.series id) =>
      if (← getSeries id).isCounter then
        Action.report (reuseCollectorEntry name)
        return id
      else throw (.registration (.foreignCollector name))
    | _, _ => throw (.registration (.foreignCollector name))
  | .error e => throw e

/-- One report per registry whose place is taken. -/
def reportSuperseded (exportName : Value) : Nat → Action Unit
  | 0 => return ()
  | n + 1 => do
    Action.report (supersededEntry exportName)
    reportSuperseded exportName n

/-- Tells the export names of the registries that are attached to a target. -/
def requireExportNames : Target → Action Unit
  | [] => return ()
  | a :: rest => do
    if let .registry id _ := a.collector then
      if (← (Item.collector id).mark? "_owner").isSome then throw .noPart
    requireExportNames rest

/-- Detaches the registries that have this export name, and reports each of them. -/
def supersede (target : Nat) (exportName : Value) : Action Unit := do
  let item := Item.target target
  if let some v ← item.markedValue? "_collector_to_names" then
    let _ ← Action.ofExcept (v.members.mapError .number)
    return ()
  let hidden ← hiddenEntries .collectors target
  let t ← getTarget target
  let listed : Target := t.drop hidden
  requireExportNames listed
  if listed.countOf exportName ≠ 0 then item.requireAllUnmarked ["unregister", "_lock"]
  reportSuperseded exportName (listed.countOf exportName)
  if let some s ← strays? .collectors target then
    setStrays { s with ahead := (Target.supersede (listed.take s.ahead) exportName).length }
  setTarget target (t.take hidden ++ listed.supersede exportName)

/-- Makes an empty registry on a target. Its collector is attached before the failure counter is
looked for, so a name clash there leaves the collector attached. -/
def addRegistry (exportName : Value) (target : Nat) : Action Nat := do
  let id := (← get).registries.size
  let attached : AttachedRegistry := { registry := { exportName := exportName }, target := target }
  modify fun h => { h with registries := h.registries.push attached }
  supersede target exportName
  attach target ⟨.registry id exportName, []⟩
  let failures ← failureCounter target exportName
  setRegistry id { attached with failures := some failures }
  return id

/-- A gauge or counter of somebody else on a target. -/
def addForeign (target : Nat) (isCounter : Bool) (name : String) (labelNames : List String) :
    Action Nat := do
  if name = "" then throw .emptyCollectorName
  let base := if isCounter then Family.dropTotal name else name
  match labelNames.find? LabelledSeries.isReserved with
  | some label => throw (.reservedLabel label)
  | none => pure ()
  if base = "" then throw .emptyFamilyName
  let s := LabelledSeries.ofLabels isCounter base "foreign" labelNames
  attach target ⟨.series (← get).series.size, s.claims⟩
  addSeries s

/-- The counter that a registry counts failures on. -/
def failuresOf (h : Host) (id : Nat) : Option Nat :=
  match h.registries[id]?, h.mark? (.registry id) "gauge_failures" with
  | some r, none => r.failures
  | _, _ => none

/-- Two registries count failures on the same counter. -/
def sharesFailures (h : Host) (a b : Nat) : Bool :=
  (failuresOf h a).isSome && failuresOf h a = failuresOf h b

/-! ## Bindings -/

def reuseEntry (name : MetricName) : JournalEntry :=
  { severity := .debug, reporter := .registry, text := "metrics.register.reuse name=" ++ name.flat }

/-- Carries a decided registration out. -/
def commit (id : Nat) (name : MetricName) (decided : Except RegistrationError Registration) :
    Action Handle := do
  let r ← Action.ofExcept (decided.mapError .registration)
  if r.reused then Action.report (reuseEntry name)
  setRegistry id { (← getRegistry id) with registry := r.registry }
  return r.bound

/-- What is offered to a registry under an item. -/
def offerOf (item : Item) : Action Offer := do
  match item with
  | .instrument handle => return .instrument handle
  | item => return .other (← item.kindName)

/-- Asks the bindings of a registry by one of their parts, which an operation of the registry does
under its lock. -/
def requireBindings (id : Nat) (operation asked : String) : Action Unit := do
  (Item.registry id).requireAllUnmarked [operation, "_lock"]
  requireOwn (.registry id) "_metrics" asked

/-- Binds the name, or gives the instrument that is bound to it already. -/
def register (id : Nat) (name : MetricName) (offer : Offer) : Action Handle := do
  (Item.registry id).requireUnmarked "register"
  if let .instrument h := offer then
    requireBindings id "register" "get"
    makeWay id name h
  commit id name ((← getRegistry id).registry.register name offer)

/-- Makes sure that an instrument of this kind can be had under a name, whether bound or new. -/
def requireObtainable (id : Nat) (operation : String) (name : MetricName) (fresh : Handle) :
    Action Unit := do
  requireBindings id operation "get"
  let r := (← getRegistry id).registry
  if (r.get? name).all (·.kind = fresh.kind) then
    (Item.registry id).requireUnmarked "register"
    makeWay id name fresh

/-- The counter under the name, a new one where there is none. -/
def counter (id : Nat) (name : MetricName) : Action Handle := do
  let fresh ← addInstrument (.counter Counter.start)
  requireObtainable id "counter" name fresh
  commit id name ((← getRegistry id).registry.counter name fresh.id)

/-- The histogram under the name, a new one where there is none. -/
def histogram (id : Nat) (name : MetricName) (biased : Value) : Action Handle := do
  let fresh ← addInstrument (.histogram (.standard biased))
  requireObtainable id "histogram" name fresh
  commit id name ((← getRegistry id).registry.histogram name fresh.id)

/-- Takes a label value out of a series. -/
def forget (id : Nat) (name : MetricName) : Action Unit := do
  let s ← getSeries id
  match s.labelNames with
  | [] => throw (.noLabels ((if s.isCounter then "counter:" else "gauge:") ++ s.name))
  | [_] => setSeries id { s with children := s.children.erase [name.flat] }
  | labels => throw (.forgottenLabels labels.length ("(" ++ name.shown ++ ",)"))

/-- Unbinds the name, and tells whether it was bound. -/
def remove (id : Nat) (name : MetricName) : Action Bool := do
  requireBindings id "remove" "pop"
  let attached ← getRegistry id
  if isAltered (← get) id then
    if attached.registry.contains name then
      unbind id name
      return true
    else return false
  else
    let (r, outcome) := attached.registry.remove name
    setRegistry id { attached with registry := r }
    Action.ofExcept (outcome.mapError fun e => .missingFamily e.family)

/-- Takes a name out of those that a surface unbinds. -/
def withdraw (id : Nat) (name : MetricName) : Action Unit := do
  match (← getSurface id).withdraw? name with
  | some s => setSurface id s
  | none => throw (.notHeld "list")

/-- Takes a name out of what can give one away. A registry tells whether it was there. -/
def removeFrom (item : Item) (name : MetricName) : Action (Option Bool × Nat) := do
  match item with
  | .registry id =>
    let removed ← remove id name
    return (some removed, ← item.size)
  | .store .ownNames id =>
    withdraw id name
    return (none, ← item.size)
  | .series id =>
    forget id name
    throw (.number .wrongKind)
  | .inner h => throw (.noLabels (h.kind.series.text ++ ":" ++ Item.innerName))
  | item =>
    match ← item.kindName with
    | "set" => throw .noEntry
    | "list" => throw (.notHeld "list")
    | "deque" => throw (.notHeld "deque")
    | _ => askPart item "remove"

/-- The instrument under a name, and whether the name is bound. -/
def lookUp (item : Item) (name : MetricName) : Action (Option Handle × Bool) := do
  match item with
  | .registry id => requireBindings id "get" "get"
  | item => if !(← item.isLookedUp) then askPart item "get"
  match item.names? with
  | some id =>
    let r := (← getRegistry id).registry
    return (r.get? name, r.contains name)
  | none => return (none, false)

/-- Whether a name is bound. -/
def isBound (item : Item) (name : MetricName) : Action Bool := do
  item.requireUnmarked "_lock"
  match ← item.markedValue? "_metrics" with
  | some (.str _) => throw (.number .wrongKind)
  | some v => do
    let _ ← Action.ofExcept (v.members.mapError .number)
    return false
  | none =>
    match item.names? with
    | some id => return (← getRegistry id).registry.contains name
    | none => return false

/-- A registry into which something was put that is no name cannot be gone through. -/
def requireNames (id : Nat) : Action Unit := do
  if !(← straysOf .bindings id).isEmpty then throw .noPart

/-- The names of a registry, or those of one scope. -/
def namesIn (id : Nat) (scope : Value) : Action (List MetricName) := do
  (Item.registry id).requireAllUnmarked ["names", "_lock"]
  match ← (Item.registry id).markedValue? "_metrics" with
  | some v =>
    if !(← Action.ofExcept (v.members.mapError .number)).isEmpty then throw .noPart
    return []
  | none =>
    requireNames id
    return (← getRegistry id).registry.namesIn scope

/-- The inventory of an item. What is no registry has one as long as there is nothing in it. -/
def inventoryOf (item : Item) (scope : Value) : Action (List InventoryEntry) := do
  match item with
  | .registry id =>
    requireBindings id "items" "items"
    let r := (← getRegistry id).registry
    let ahead ← entriesAhead .bindings id r.bindings.entries
    if ahead.any fun b => Registry.isIn scope b.1 then item.requireUnmarked "family_name"
    requireNames id
    return r.inventory scope
  | .store .bindings id => if (← namesIn id scope).isEmpty then return [] else throw .noPart
  | item =>
    if !(← item.isLookedUp) then askPart item "items"
    if !(← item.isDictionary) then throw .noPart
    if (← item.size) = 0 then return [] else throw .noPart

/-- The family of a label in a registry. -/
def familyName (id : Nat) (label : String) : Action String := do
  (Item.registry id).requireUnmarked "family_name"
  return (← getRegistry id).registry.family label

/-- The fields of an entry in the order in which they are written. -/
def entryFields (e : InventoryEntry) : List (String × Value) :=
  [("name", .str e.name), ("scope", .str e.scope), ("kind", .str e.series.text),
   ("family", .str e.family), ("mbean_name", .str e.flat)]

def dumpedEntry (path : String) (count : Nat) : JournalEntry :=
  { severity := .info, reporter := .inventory
    text := "metrics.introspection.dumped path=" ++ path ++ " count=" ++ toString count
    event := some "metrics.introspection.dumped" }

/-- The inventory as JSON, also written to a file when a path is given. -/
def dump (item : Item) (path : Value) : Action String := do
  let entries ← inventoryOf item .none
  let text := Text.Json.indentedList (entries.map entryFields)
  match path with
  | .none => pure ()
  | .str path =>
    Action.ofFiling (Files.write (Path.tidy path) text)
    Action.report (dumpedEntry path entries.length)
  | _ => throw (.number .wrongKind)
  return text

end StorageMetrics.Host
