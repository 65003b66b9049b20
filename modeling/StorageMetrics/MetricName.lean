import StorageMetrics.Text.Blank
import StorageMetrics.Value.Text

/-
  Metric names: the identity that a registry keys on. A name has a group, a type, a label and a
  scope (`keyspace.table`), and a flat form `group:type=…,keyspace=…,scope=…,name=…`. A table scope
  builds them; it refuses parts that would make the flat form ambiguous.
-/

namespace StorageMetrics

/-- Two names are the same identity when all five parts agree. -/
structure MetricName where
  group : String
  type : String
  /-- The label. -/
  name : String
  /-- Keyspace and table, with a point between. -/
  scope : String
  /-- The flat form. -/
  flat : String
deriving DecidableEq, Inhabited

namespace MetricName

/-- The scope up to its first point. -/
def keyspaceChars : List Char → List Char
  | [] => []
  | c :: rest => if c = '.' then [] else c :: keyspaceChars rest

/-- The scope after its first point. -/
def tableChars? : List Char → Option (List Char)
  | [] => none
  | c :: rest => if c = '.' then some rest else tableChars? rest

/-- How messages show a name. -/
def shown (n : MetricName) : String :=
  "MetricName(group=" ++ Text.quoted n.group ++ ", type=" ++ Text.quoted n.type ++ ", name=" ++
    Text.quoted n.name ++ ", scope=" ++ Text.quoted n.scope ++ ", mbean_name=" ++
    Text.quoted n.flat ++ ")"

def keyspace (n : MetricName) : String := String.ofList (keyspaceChars n.scope.toList)

/-- A scope without a point names no table. -/
def table? (n : MetricName) : Option String := (tableChars? n.scope.toList).map String.ofList

end MetricName

/-- The parts of a name that a caller chooses. -/
inductive NamePart where
  | keyspace
  | table
  | label
deriving DecidableEq

def NamePart.text : NamePart → String
  | keyspace => "keyspace"
  | table => "table"
  | label => "metric name"

/-- Why a name cannot be built. -/
inductive NameError where
  | notText (part : NamePart) (value : Value)
  | reserved (part : NamePart) (value : String)
  | dottedKeyspace (value : String)
  | badShard (value : Value)
deriving Inhabited

def NameError.message : NameError → String
  | notText part v => part.text ++ " must be a non-empty string (got " ++ v.shown ++ ")"
  | reserved part s => part.text ++ " contains a reserved separator: " ++ Text.quoted s
  | dottedKeyspace s => "keyspace must not contain '.': " ++ Text.quoted s
  | badShard v => "shard must be a non-negative int (got " ++ v.shown ++ ")"

/-- The separators of the flat form, and blanks. -/
def isReserved (c : Char) : Bool := c = ':' || c = ',' || c = '=' || Text.isBlank c

/-- A text that may stand in a name: not empty, and without separators. -/
def IsNamePart (s : String) : Prop := s ≠ "" ∧ ∀ c ∈ s.toList, isReserved c = false

instance (s : String) : Decidable (IsNamePart s) :=
  inferInstanceAs (Decidable (s ≠ "" ∧ ∀ c ∈ s.toList, isReserved c = false))

/-- The text of a part, or why it is refused. -/
def NamePart.check (part : NamePart) (v : Value) : Except NameError { s : String // IsNamePart s } :=
  match v with
  | .str s =>
    if h : IsNamePart s then .ok ⟨s, h⟩
    else if s = "" then .error (.notText part v)
    else .error (.reserved part s)
  | v => .error (.notText part v)

/-- The table whose metrics are named. -/
structure TableScope where
  keyspace : String
  table : String
  keyspace_ok : IsNamePart keyspace
  table_ok : IsNamePart table
  keyspace_undotted : '.' ∉ keyspace.toList

namespace TableScope

def group : String := "org.apache.cassandra.metrics"

def type : String := "Rocksdb"

theorem isNamePart_all : IsNamePart "all" := by
  refine ⟨by decide, fun c hc => ?_⟩
  have h : c = 'a' ∨ c = 'l' := by simpa using hc
  rcases h with rfl | rfl <;> decide

/-- The keyspace and table of metrics that belong to no table. -/
def all : TableScope where
  keyspace := "all"
  table := "all"
  keyspace_ok := isNamePart_all
  table_ok := isNamePart_all
  keyspace_undotted := by simp

def ofValues (keyspace table : Value) : Except NameError TableScope := do
  let ks ← NamePart.keyspace.check keyspace
  let t ← NamePart.table.check table
  if h : '.' ∈ ks.val.toList then .error (.dottedKeyspace ks.val)
  else .ok ⟨ks.val, t.val, ks.property, t.property, h⟩

/-- The name of a label under a scope of this keyspace. -/
def build (s : TableScope) (label table : String) : MetricName where
  group := group
  type := type
  name := label
  scope := s.keyspace ++ "." ++ table
  flat := group ++ ":type=" ++ type ++ ",keyspace=" ++ s.keyspace ++ ",scope=" ++ table ++
    ",name=" ++ label

/-- The name of a metric of the whole table. -/
def name (s : TableScope) (label : String) : MetricName := s.build label s.table

/-- The table part of a shard's scope. -/
def shardTable (s : TableScope) (shard : Nat) : String := s.table ++ "_" ++ toString shard

/-- The name of a metric of one shard. -/
def shardName (s : TableScope) (label : String) (shard : Nat) : MetricName :=
  s.build label (s.shardTable shard)

/-- The name of a table metric under a label that a caller chose. -/
def name? (s : TableScope) (label : Value) : Except NameError MetricName := do
  let l ← NamePart.label.check label
  return s.name l.val

/-- A shard is an integer that is not negative; a truth value is none. -/
def shard? : Value → Except NameError Nat
  | .int (.ofNat n) => .ok n
  | v => .error (.badShard v)

/-- The name of a shard's metric under a label and a shard that a caller chose. -/
def shardName? (s : TableScope) (label shard : Value) : Except NameError MetricName := do
  let n ← shard? shard
  let l ← NamePart.label.check label
  return s.shardName l.val n

/-- How messages show the scope. -/
def shown (s : TableScope) : String :=
  "RocksMetricNameFactory(" ++ Text.quoted s.keyspace ++ ", " ++ Text.quoted s.table ++ ")"

end TableScope

end StorageMetrics
