import StorageMetrics.Item

/-
  Table surfaces: everything that is exported about one table, and the names of it. Shard by shard
  come the labels of the catalog, then those of the table as a whole.
-/

namespace StorageMetrics

/-- A table's surface. -/
structure Surface where
  scope : TableScope
  tableId : Value
  engine : Item
  registry : Nat
  shards : Nat
  /-- The names that it was built with. -/
  names : List MetricName
  ingestTime : Handle
  ingestWait : Handle
  levels : List Handle
  pending : Handle
  live : Handle
  iterMove : Handle
  iterSeek : Handle
  iterNew : Handle
  /-- The positions of names that were taken out again. -/
  withdrawn : List Nat := []

namespace Surface

/-- The gauges that ask the engine. -/
def gauges (s : Surface) : List Handle := s.levels ++ [s.pending, s.live]

/-- The names that are left, with their positions. -/
def placed (s : Surface) : List (MetricName × Nat) := s.names.zipIdx.filter (·.2 ∉ s.withdrawn)

/-- The names that are left. -/
def identities (s : Surface) : List MetricName := s.placed.map (·.1)

/-- Takes a name out, where it is first; nothing is left to do for a name that is not there. -/
def withdraw? (s : Surface) (name : MetricName) : Option Surface :=
  (s.placed.find? (·.1 = name)).map fun p => { s with withdrawn := p.2 :: s.withdrawn }

/-- As built, a surface has all of its names. -/
theorem identities_of_withdrawn_nil {s : Surface} (h : s.withdrawn = []) : s.identities = s.names := by
  have all : s.placed = s.names.zipIdx := by simp [placed, h]
  rw [identities, all]
  exact List.zipIdx_map_fst 0 s.names

def ingestTimeLabel : String := "IngestTime"
def ingestWaitLabel : String := "IngestWaitTime"
def levelLabel (level : Nat) : String := "SSTableCountPerLevel." ++ toString level
def pendingLabel : String := "PendingCompactionBytes"
def liveLabel : String := "LiveDataSize"
def iterMoveLabel : String := "RocksIterMove"
def iterSeekLabel : String := "RocksIterSeek"
def iterNewLabel : String := "RocksIterNew"

/-- The labels of a table as a whole, in order. -/
def tableLabels (levels : Nat) : List String :=
  [ingestTimeLabel, ingestWaitLabel] ++ (List.range levels).map levelLabel ++
    [pendingLabel, liveLabel, iterMoveLabel, iterSeekLabel, iterNewLabel]

/-- The names of one shard, in the order of the catalog. -/
def shardNames (scope : TableScope) (shard : Nat) : List MetricName :=
  Catalog.labels.map (scope.shardName · shard)

/-- Every name of a surface: shard by shard, then the table's own. -/
def nameList (scope : TableScope) (shards levels : Nat) : List MetricName :=
  (List.range shards).flatMap (shardNames scope) ++ (tableLabels levels).map scope.name

/-- The name has the scope of a shard of this table. -/
def isInShard (keyspace table : String) (shard : Value) (name : MetricName) : Bool :=
  name.scope = keyspace ++ "." ++ table ++ "_" ++ shard.plain

/-- The names whose scope is that of this shard. -/
def shardIdentities (s : Surface) (shard : Value) : List MetricName :=
  s.identities.filter (isInShard s.scope.keyspace s.scope.table shard)

end Surface

end StorageMetrics
