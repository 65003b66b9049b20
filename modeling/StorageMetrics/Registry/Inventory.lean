import StorageMetrics.Registry.Basic

/-
  Inventories: one entry per bound name, sorted by scope and then by label. They depend on what is
  bound, not on the order in which it was bound.
-/

namespace StorageMetrics

structure InventoryEntry where
  name : String
  scope : String
  series : SeriesType
  family : String
  flat : String
deriving DecidableEq, Inhabited

namespace InventoryEntry

/-- Scopes compare first, labels settle ties; both by code points. -/
def le (a b : InventoryEntry) : Bool :=
  if a.scope = b.scope then a.name ≤ b.name else a.scope < b.scope

end InventoryEntry

namespace Registry

def inventoryEntry (r : Registry) (name : MetricName) (h : Handle) : InventoryEntry :=
  ⟨name.name, name.scope, h.kind.series, r.family name.name, name.flat⟩

/-- All entries, or those of one scope, in order. -/
def inventory (r : Registry) (scope : Value) : List InventoryEntry :=
  let bound := r.bindings.entries.filter fun b => isIn scope b.1
  (bound.map fun b => r.inventoryEntry b.1 b.2).mergeSort InventoryEntry.le

end Registry

end StorageMetrics
