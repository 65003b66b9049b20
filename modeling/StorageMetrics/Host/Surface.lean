import StorageMetrics.Host.Reading
import StorageMetrics.Host.Registration

/-
  Building and releasing table surfaces. In order: the catalog once per shard, two histograms of the
  write path, one gauge per compaction level, the gauges of pending bytes and live data, and three
  counters of the read path. Gauges are guarded, so an engine
  without a handle of the table reads as zero. Names that are bound already keep their instruments.
-/

namespace StorageMetrics

/-- The table that a surface is built for, and what it is built from. -/
structure SurfaceRequest where
  scope : TableScope
  tableId : Value
  statistics : List Item
  engine : Item
  registry : Item
  /-- The settings, or why there are none to take levels from. -/
  settings : Except Fault Settings

namespace Host

/-- A guarded gauge on a query, under its name's flat form. -/
def registerGauge (registry : Nat) (name : MetricName) (query : Query) (message : String) :
    Action Handle := do
  let failures := failuresOf (← get) registry
  let gauge ← addInstrument
    (.gauge query (some ⟨.int 0, .str message, .str name.flat, failures⟩))
  register registry name (.instrument gauge)

/-- The catalog of one shard, read from its statistics. -/
def registerCatalog (registry : Nat) (scope : TableScope) (shard : Nat)
    (statistics : Item) : List CatalogEntry → Action Unit
  | [] => return ()
  | entry :: rest => do
    let h ← addInstrument (Instrument.ofSource statistics entry.source)
    let _ ← register registry (scope.shardName entry.label shard) (.instrument h)
    registerCatalog registry scope shard statistics rest

def registerShards (registry : Nat) (scope : TableScope) : Nat → List Item → Action Unit
  | _, [] => return ()
  | shard, statistics :: rest => do
    registerCatalog registry scope shard statistics Catalog.entries
    registerShards registry scope (shard + 1) rest

def registerLevels (r : SurfaceRequest) (registry : Nat) : List Nat → Action (List Handle)
  | [] => return []
  | level :: rest => do
    let h ← registerGauge registry (r.scope.name (Surface.levelLabel level))
      (.levelCount r.engine r.tableId level) "Failed to get sstable count by level."
    return h :: (← registerLevels r registry rest)

/-- The number of levels as a count; a float is none. -/
def levelCount (s : Settings) : Except Fault Nat :=
  match s.maxLevels with
  | .int n => .ok n.toNat
  | .bool b => .ok b.toNat
  | _ => .error (.number .wrongKind)

def registeredEntry (r : SurfaceRequest) (count : Nat) : JournalEntry :=
  { severity := .info, reporter := .surface
    text := "metrics.table.registered keyspace=" ++ r.scope.keyspace ++ " table=" ++ r.scope.table ++
      " shards=" ++ toString r.statistics.length ++ " metrics=" ++ toString count
    event := some "metrics.table.registered" }

/-- The registry that a surface is built in. Without shards histograms come first. -/
def surfaceRegistry (r : SurfaceRequest) : Action Nat := do
  match r.registry.asRegistry with
  | some id => return id
  | none => askPart r.registry (if r.statistics.isEmpty then "histogram" else "register")

/-- Builds a surface. A refused registration leaves the earlier ones in place. -/
def buildSurface (r : SurfaceRequest) : Action Nat := do
  let registry ← surfaceRegistry r
  registerShards registry r.scope 0 r.statistics
  let ingestTime ← histogram registry (r.scope.name Surface.ingestTimeLabel) (.bool true)
  let ingestWait ← histogram registry (r.scope.name Surface.ingestWaitLabel) (.bool true)
  let count ← Action.ofExcept (r.settings.bind levelCount)
  let levels ← registerLevels r registry (List.range count)
  let pending ← registerGauge registry (r.scope.name Surface.pendingLabel)
    (.pendingBytes r.engine r.tableId) "Failed to get pending compaction bytes"
  let live ← registerGauge registry (r.scope.name Surface.liveLabel)
    (.liveBytes r.engine r.tableId) "Failed to get live data size"
  let iterMove ← counter registry (r.scope.name Surface.iterMoveLabel)
  let iterSeek ← counter registry (r.scope.name Surface.iterSeekLabel)
  let iterNew ← counter registry (r.scope.name Surface.iterNewLabel)
  let names := Surface.nameList r.scope r.statistics.length count
  Action.report (registeredEntry r names.length)
  addSurface ⟨r.scope, r.tableId, r.engine, registry, r.statistics.length, names, ingestTime,
    ingestWait, levels, pending, live, iterMove, iterSeek, iterNew, []⟩

/-! ## What surfaces have -/

/-- Makes sure that there is nothing in what was put in the place of names or gauges; the others have
not what is asked of them. -/
def requireEmpty (marked : Item) : Action Unit := do
  let v ← Action.part (← marked.plain?)
  if !(← Action.ofExcept (v.members.mapError .number)).isEmpty then throw .noPart

/-- The names that a surface unbinds. -/
def namesOf (id : Nat) : Action (List MetricName) := do
  match ← (Item.surface id).mark? "_identities" with
  | some marked =>
    requireEmpty marked
    return []
  | none => return (← getSurface id).identities

/-- A word that the scope of a surface starts with or ends in. -/
def scopeWord (id : Nat) (part own : String) : Action String := do
  return ((← (Item.scope id).markedValue? part).map (·.plain)).getD own

/-- The names whose scope is that of this shard. -/
def shardNamesOf (id : Nat) (shard : Value) : Action (List MetricName) := do
  let item := Item.surface id
  item.requireUnmarked "sharded_identities"
  requireOwn item "factory" "keyspace_name"
  let s ← getSurface id
  let keyspace ← scopeWord id "keyspace_name" s.scope.keyspace
  let table ← scopeWord id "table_name" s.scope.table
  return (← namesOf id).filter (Surface.isInShard keyspace table shard)

/-- Unbinds the names, and counts those that were bound. -/
def removeAll (registry : Nat) : List MetricName → Action Nat
  | [] => return 0
  | name :: rest => do
    let removed ← remove registry name
    return (if removed then 1 else 0) + (← removeAll registry rest)

/-- Takes something that is no name out of a registry, which has it only among its strays. -/
def removeStray (registry : Nat) (key : Value) : Action Unit := do
  requireBindings registry "remove" "pop"
  if !key.isKey then throw (.number .wrongKind)
  let found ← stray? .bindings registry key
  dropStray .bindings registry key
  if found.any fun v => !(v matches .none) then throw .noPart

/-- Takes names out of what is in the place of a registry, which holds none of them. -/
def removeFromMarked (marked : Item) (names : List Value) : Action Unit := do
  if !names.isEmpty then
    let kind ← marked.kindName
    marked.require "remove"
    throw (.notHeld kind)

/-- Takes a surface's names out of its registry, and tells how many were bound. -/
def removeNames (id : Nat) : Action Nat := do
  let item := Item.surface id
  let s ← getSurface id
  let others := (← item.mark? "_identities").isSome
  let keys ← match ← item.markedValue? "_identities" with
    | some v => Action.ofExcept (v.members.mapError .number)
    | none => pure (s.identities.map fun n => .str n.flat)
  match ← item.mark? "registry" with
  | some marked =>
    removeFromMarked marked keys
    return 0
  | none =>
    if others then
      keys.forM (removeStray s.registry)
      return 0
    else removeAll s.registry s.identities

def releasedEntry (keyspace table : String) (removed : Nat) : JournalEntry :=
  { severity := .info, reporter := .surface
    text := "metrics.table.released keyspace=" ++ keyspace ++ " table=" ++ table ++
      " removed=" ++ toString removed
    event := some "metrics.table.released" }

/-- A word of the table of a surface. -/
def tableWord (id : Nat) (part own : String) : Action String := do
  return ((← (Item.table id).markedValue? part).map (·.plain)).getD own

/-- Takes a surface's names out of its registry, and reports how many were bound. -/
def releaseSurface (id : Nat) : Action Nat := do
  (Item.surface id).requireUnmarked "release"
  let removed ← removeNames id
  requireOwn (.surface id) "table" "keyspace"
  let s ← getSurface id
  let keyspace ← tableWord id "keyspace" s.scope.keyspace
  let table ← tableWord id "name" s.scope.table
  Action.report (releasedEntry keyspace table removed)
  return removed

/-- Releases what can be released. A lock that nobody holds cannot. -/
def release (item : Item) : Action Nat := do
  match item with
  | .surface id => releaseSurface id
  | item =>
    match ← item.kindName with
    | "lock" => throw (.notLocked false)
    | "RLock" => throw (.notLocked true)
    | _ => askPart item "release"

def pollGauges : List Handle → Action (List Value)
  | [] => return []
  | h :: rest => do
    let v ← pollGauge h
    return v :: (← pollGauges rest)

/-- What the gauges of a surface show. -/
structure GaugeValues where
  levels : List Value
  pending : Value
  live : Value

def pollLevels (id : Nat) : Action (List Value) := do
  match ← (Item.surface id).mark? "sstable_count_per_level" with
  | some marked =>
    requireEmpty marked
    return []
  | none => pollGauges (← getSurface id).levels

def pollSurface (id : Nat) : Action GaugeValues := do
  let item := Item.surface id
  let levels ← pollLevels id
  requireOwn item "pending_compaction_bytes" "get_value"
  let pending ← pollGauge (← getSurface id).pending
  requireOwn item "estimate_live_data_size" "get_value"
  return ⟨levels, pending, ← pollGauge (← getSurface id).live⟩

end Host

end StorageMetrics
