import StorageMetrics.Proofs.Registry.Exact

/-
  Reachable registries: those that come from an empty one by registrations that went through and by
  removals. A refusal gives no registry, so it is no step. Every reachable registry has an exact
  family table.
-/

namespace StorageMetrics.Registry

/-- What registrations, counters, histograms and removals make of an empty registry. -/
inductive Reachable : Registry → Prop where
  | empty (exportName : Value) : Reachable { exportName := exportName }
  | registered {r : Registry} {name : MetricName} {offer : Offer} {reg : Registration}
      (before : Reachable r) (ok : r.register name offer = .ok reg) : Reachable reg.registry
  | obtained {r : Registry} {kind : InstrumentKind} {name : MetricName} {fresh : Nat}
      {reg : Registration} (before : Reachable r) (ok : r.obtain kind name fresh = .ok reg) :
      Reachable reg.registry
  | removed {r : Registry} (before : Reachable r) (name : MetricName) : Reachable (r.remove name).1

theorem Reachable.exact {r : Registry} (reachable : r.Reachable) : r.Exact := by
  induction reachable with
  | empty exportName => exact exact_empty exportName
  | registered _ ok ih => exact ih.register ok
  | obtained _ ok ih => exact ih.obtain ok
  | removed _ name ih => exact ih.remove name

end StorageMetrics.Registry
