import StorageMetrics.Instrument.Kind
import StorageMetrics.MetricName
import StorageMetrics.Settings.Basic
import StorageMetrics.Throughput

/-
  Items: whatever a program can hold of a host and hand to an operation. An operation takes an item
  for what it wants; an item of another kind is refused when it is first asked for something that it
  has not, and not before. Items have an identity: two of them can be alike without being one thing.
-/

namespace StorageMetrics

/-- What a source, a surface, a registry, a target or a series keeps, by what it is kept for. -/
inductive Store where
  | tickers
  | histograms
  | levelFiles
  | pending
  | live
  | levelGauges
  /-- The names that a surface unbinds when it is released. -/
  | ownNames
  | bindings
  | familyShapes
  | familySizes
  /-- The values of a series by their labels. -/
  | children
  | outgoingTransfers
  | incomingTransfers
  /-- The claims of the collectors of a target. -/
  | collectors
  /-- The collectors of a target by their claims. -/
  | claims
deriving DecidableEq

namespace Store

/-- The name of the kind, as refusals show it. -/
def kindName : Store → String
  | levelGauges | ownNames => "list"
  | outgoingTransfers | incomingTransfers => "deque"
  | _ => "dict"

/-- Whether values stand under keys. -/
def isDictionary (s : Store) : Bool := s.kindName = "dict"

end Store

/-- Sources, surfaces, registries, targets and the like are known by their number in the host, and so
is what they are made of by the number of its owner. -/
inductive Item where
  | statistics (id : Nat)
  | engine (id : Nat)
  | tracker (id : Nat)
  /-- A tracker's window of one direction. -/
  | window (tracker : Nat) (direction : Direction)
  /-- Two cells that give the rates of throughput outright. -/
  | rates (id : Nat) (outgoing incoming : String)
  | registry (id : Nat)
  /-- What a registry attaches to its target. -/
  | collector (registry : Nat)
  | target (id : Nat)
  /-- A series outside of any registry. -/
  | series (id : Nat)
  | context (id : Nat)
  | surface (id : Nat)
  | instrument (handle : Handle)
  /-- The series inside of a counter or a histogram. -/
  | inner (handle : Handle)
  /-- The running total of such a series. -/
  | total (handle : Handle)
  | store (kind : Store) (owner : Nat)
  | scope (surface : Nat)
  | table (surface : Nat)
  | name (surface index : Nat)
  | settings (context : Nat)
  | metricKind (k : MetricKind)
  | statSource (s : StatSource)
  /-- The parts of an item by their names. -/
  | parts (owner : Item)
  /-- What the host keeps for its identity. -/
  | kept (id : Nat)
  /-- A value that is one thing wherever it turns up. -/
  | value (v : Value)
deriving Inhabited

namespace Item

/-! ## Taking an item for what it is -/

def asStatistics : Item → Option Nat
  | statistics id => some id
  | _ => none

def asRegistry : Item → Option Nat
  | registry id => some id
  | _ => none

def asContext : Item → Option Nat
  | context id => some id
  | _ => none

def asInstrument : Item → Option Handle
  | instrument handle => some handle
  | _ => none

def asSurface : Item → Option Nat
  | surface id => some id
  | _ => none

/-- Both are one thing. -/
def same : Item → Item → Bool
  | statistics a, statistics b | engine a, engine b | tracker a, tracker b | registry a, registry b
  | collector a, collector b | target a, target b | series a, series b | context a, context b
  | surface a, surface b | scope a, scope b | table a, table b | settings a, settings b
  | kept a, kept b => a = b
  | window a d, window b e => a = b && d = e
  | rates a _ _, rates b _ _ => a = b
  | instrument a, instrument b | inner a, inner b | total a, total b => a.id = b.id
  | store k a, store l b => k = l && a = b
  | name a i, name b j => a = b && i = j
  | metricKind a, metricKind b => a = b
  | statSource a, statSource b => a = b
  | parts a, parts b => a.same b
  | value a, value b => a.kindName = b.kindName && a.same b
  | _, _ => false

end Item

/-- Values that are one thing wherever they turn up: missing ones, truth values, small integers, and
texts of at most one character out of the first 256. -/
def Value.isShared : Value → Bool
  | .none | .bool _ => true
  | .int n => -5 ≤ n ∧ n ≤ 256
  | .str s => s.length ≤ 1 && s.toList.all (·.toNat < 256)
  | _ => false

end StorageMetrics
