import StorageMetrics.Host.Context
import StorageMetrics.Proofs.Host.Unaltered
import StorageMetrics.Proofs.Registry.Reachable
import StorageMetrics.Proofs.Registry.Removal

/-
  Histories of a registry. A history is any list of registrations, counters, histograms and
  removals, refused ones included. One call touches nothing of the host but the registry, and binds
  at most what it offers (`RegistryCall.after_rebind`). It leads from a reachable registry to a
  reachable one, hence so does a history, and after every history the family table of a registry
  that started empty is exact and no removal misses an entry (`families_exact_after_calls`).
-/

namespace StorageMetrics

/-- A call of an operation that can change a registry. -/
inductive RegistryCall where
  | register (name : MetricName) (offer : Offer)
  | counter (name : MetricName)
  | histogram (name : MetricName) (biased : Value)
  | remove (name : MetricName)

namespace RegistryCall

/-- Carries a call out on a registry of the host. -/
def run (id : Nat) : RegistryCall → Action Unit
  | register name offer => do let _ ← Host.register id name offer
  | counter name => do let _ ← Host.counter id name
  | histogram name biased => do let _ ← Host.histogram id name biased
  | remove name => do let _ ← Host.remove id name

end RegistryCall

namespace Host

open StorageMetrics.Action

/-- The host after a history. -/
def afterCalls (id : Nat) (calls : List RegistryCall) (h : Host) : Host :=
  calls.foldl (fun h call => (call.run id).after h) h

end Host

/-! ## One call -/

/-- What a call is about to bind, if the name is free. -/
inductive RegistryCall.Offers (h : Host) : RegistryCall → MetricName → Handle → Prop
  | register (name : MetricName) (hd : Handle) :
    Offers h (.register name (.instrument hd)) name hd
  | counter (name : MetricName) : Offers h (.counter name) name ⟨h.instruments.size, .counter⟩
  | histogram (name : MetricName) (biased : Value) :
    Offers h (.histogram name biased) name ⟨h.instruments.size, .histogram⟩

/-- A registration that went through has at most bound what was offered. -/
theorem Registry.register_keeps {r : Registry} {name : MetricName} {offer : Offer}
    {reg : Registration} (ok : r.register name offer = .ok reg) :
    reg.registry.exportName = r.exportName ∧
      ∀ other hd, reg.registry.bindings.get? other = some hd →
        r.bindings.get? other = some hd ∨ other = name ∧ offer = .instrument hd := by
  obtain ⟨held, -, rfl⟩ | ⟨hd, rfl, -, -, rfl⟩ := register_cases ok
  · exact ⟨rfl, fun other hd bound => Or.inl bound⟩
  · refine ⟨rfl, fun other hd' bound => ?_⟩
    rw [get?_bindings_bind] at bound
    split at bound
    case isTrue here =>
      cases bound
      exact Or.inr ⟨here.symm, rfl⟩
    case isFalse => exact Or.inl bound

theorem Registry.obtain_keeps {r : Registry} {kind : InstrumentKind} {name : MetricName}
    {fresh : Nat} {reg : Registration} (ok : r.obtain kind name fresh = .ok reg) :
    reg.registry.exportName = r.exportName ∧
      ∀ other hd, reg.registry.bindings.get? other = some hd →
        r.bindings.get? other = some hd ∨ other = name ∧ hd = ⟨fresh, kind⟩ := by
  obtain ⟨held, -, -, rfl⟩ | ⟨-, registered⟩ := obtain_cases ok
  · exact ⟨rfl, fun other hd bound => Or.inl bound⟩
  · obtain ⟨same, keeps⟩ := register_keeps registered
    refine ⟨same, fun other hd bound => ?_⟩
    obtain before | ⟨here, offered⟩ := keeps other hd bound
    · exact Or.inl before
    · cases offered
      exact Or.inr ⟨here, rfl⟩

namespace RegistryCall

open Host StorageMetrics.Action

/-- The host with the instrument that a call makes before anything is decided. -/
def making (h : Host) : RegistryCall → Host
  | counter _ => h.withInstrument (.counter Counter.start)
  | histogram _ biased => h.withInstrument (.histogram (.standard biased))
  | register _ _ => h
  | remove _ => h

variable {h : Host} {id : Nat} {r : Registry}

theorem making_holds (holds : h.Holds id r) (call : RegistryCall) : (call.making h).Holds id r := by
  cases call <;> first | exact holds | exact holds.withInstrument _

/-- A decided registration leads to the registry of the decision, or leaves the one that was. -/
theorem after_settled (holds : h.Holds id r) (reachable : r.Reachable) {call : RegistryCall}
    {t : Action Handle} (runs : call.run id = do let _ ← t) {name : MetricName}
    {decided : Except RegistrationError Registration}
    (ran : t h = settled id name decided (call.making h))
    (leads : ∀ reg, decided = .ok reg → reg.registry.Reachable)
    (keeps : ∀ reg, decided = .ok reg → reg.registry.exportName = r.exportName ∧
      ∀ other hd, reg.registry.bindings.get? other = some hd →
        r.bindings.get? other = some hd ∨ call.Offers h other hd) :
    ∃ s reports, (call.run id).after h = (call.making h).rebind id s reports ∧ s.Reachable ∧
      s.exportName = r.exportName ∧ ∀ other hd, s.bindings.get? other = some hd →
        r.bindings.get? other = some hd ∨ call.Offers h other hd := by
  rw [runs, after_discard]
  cases decided with
  | error e =>
    refine ⟨r, [], ?_, reachable, rfl, fun other hd bound => Or.inl bound⟩
    rw [after_of_error ran, (making_holds holds call).rebind_self]
  | ok reg =>
    obtain ⟨same, bound⟩ := keeps reg rfl
    exact ⟨reg.registry, _, after_of_ok ran, leads reg rfl, same, bound⟩

/-- A call touches nothing but its registry, besides making an instrument and reporting, and binds
at most what it offers. -/
theorem after_rebind (holds : h.Holds id r) (reachable : r.Reachable) (call : RegistryCall) :
    ∃ s reports, (call.run id).after h = (call.making h).rebind id s reports ∧ s.Reachable ∧
      s.exportName = r.exportName ∧ ∀ other hd, s.bindings.get? other = some hd →
        r.bindings.get? other = some hd ∨ call.Offers h other hd := by
  cases call with
  | register name offer =>
    refine after_settled holds reachable rfl (register_run holds name offer)
      (fun reg ok => reachable.registered ok) fun reg ok => ?_
    obtain ⟨same, keeps⟩ := Registry.register_keeps ok
    refine ⟨same, fun other hd bound => (keeps other hd bound).imp_right ?_⟩
    rintro ⟨rfl, rfl⟩
    exact .register other hd
  | counter name =>
    refine after_settled holds reachable rfl (counter_run holds name)
      (fun reg ok => reachable.obtained ok) fun reg ok => ?_
    obtain ⟨same, keeps⟩ := Registry.obtain_keeps ok
    refine ⟨same, fun other hd bound => (keeps other hd bound).imp_right ?_⟩
    rintro ⟨rfl, rfl⟩
    exact .counter other
  | histogram name biased =>
    refine after_settled holds reachable rfl (histogram_run holds name biased)
      (fun reg ok => reachable.obtained ok) fun reg ok => ?_
    obtain ⟨same, keeps⟩ := Registry.obtain_keeps ok
    refine ⟨same, fun other hd bound => (keeps other hd bound).imp_right ?_⟩
    rintro ⟨rfl, rfl⟩
    exact .histogram other biased
  | remove name =>
    have exact := reachable.exact
    have ran : ((RegistryCall.remove name).run id).after h = h.rebind id (r.remove name).1 [] := by
      show (do let _ ← Host.remove id name : Action Unit).after h = _
      rw [after_discard, after_of_ok (remove_run holds exact name)]
    exact ⟨_, [], ran, reachable.removed name, exact.exportName_remove name,
      fun other hd bound => Or.inl (exact.get?_of_remove bound)⟩

/-- A call leads from a reachable registry to a reachable one. -/
theorem after_holds (holds : h.Holds id r) (reachable : r.Reachable) (call : RegistryCall) :
    ∃ s, ((call.run id).after h).Holds id s ∧ s.Reachable := by
  obtain ⟨s, reports, ran, reachable, -⟩ := after_rebind holds reachable call
  exact ⟨s, ran ▸ (making_holds holds call).rebind s reports, reachable⟩

end RegistryCall

namespace Host

/-! ## Histories -/

/-- What one call keeps, a history keeps. -/
theorem afterCalls_holds {h : Host} {id : Nat} {r : Registry} (holds : h.Holds id r)
    (reachable : r.Reachable) (calls : List RegistryCall) :
    ∃ s, (h.afterCalls id calls).Holds id s ∧ s.Reachable := by
  induction calls generalizing h r with
  | nil => exact ⟨r, holds, reachable⟩
  | cons call rest ih =>
    obtain ⟨s, holds, reachable⟩ := call.after_holds holds reachable
    exact ih holds reachable

/-- After every history of a registry that started empty, its family table says what its bindings
say: which families there are, how many members each of them has, and their shape. Every further
removal goes through. -/
theorem families_exact_after_calls (h : Host) (id : Nat) (exportName : Value)
    (empty : h.Holds id { exportName := exportName }) (calls : List RegistryCall) :
    ∃ r, (h.afterCalls id calls).Holds id r ∧ r.Exact ∧
      ∀ name, ∃ h', remove id name (h.afterCalls id calls) = .ok (r.contains name) h' := by
  obtain ⟨r, holds, reachable⟩ := afterCalls_holds empty (.empty exportName) calls
  exact ⟨r, holds, reachable.exact, fun name => ⟨_, remove_run holds reachable.exact name⟩⟩

/-- The host of a process that just made its first registry. -/
def started (exportName : Value) : Host := (addPrivateRegistry exportName).after {}

/-- There is nothing in the process but the registry, its target and its failure counter. -/
theorem started_eq (exportName : Value) : ∃ series targets journal, started exportName =
    { registries := #[⟨{ exportName := exportName }, 0, some 0⟩]
      series := series
      targets := targets
      journal := journal } :=
  ⟨_, _, _, rfl⟩

/-- The first registry of a process starts empty. -/
theorem started_holds (exportName : Value) :
    (started exportName).Holds 0 { exportName := exportName } := by
  obtain ⟨series, targets, journal, same⟩ := started_eq exportName
  rw [same]
  exact ⟨rfl, rfl⟩

/-- A history in which two spellings of one label come and go, with a refusal between them. -/
def respellings : List RegistryCall :=
  [.counter (TableScope.all.name "DbSeek"), .register (TableScope.all.name "db-seek") (.other "int"),
    .counter (TableScope.all.name "db-seek"), .remove (TableScope.all.name "DbSeek")]

theorem families_exact_after_respellings :
    (started (.str "db")).Holds 0 { exportName := .str "db" } ∧
      ∃ r, ((started (.str "db")).afterCalls 0 respellings).Holds 0 r ∧ r.Exact ∧
        ∀ name, ∃ h', remove 0 name ((started (.str "db")).afterCalls 0 respellings) =
          .ok (r.contains name) h' :=
  ⟨started_holds _, families_exact_after_calls _ 0 _ (started_holds _) respellings⟩

end Host

end StorageMetrics
