import StorageMetrics.Proofs.Host.RegistryCalls
import StorageMetrics.Proofs.Registry.Refusal

/-
  Refusals of a host. In every reachable registry the refusals are those that the bindings tell, and
  a refused call and one that finds its name bound change no registry (`registrations_decided`).
-/

namespace StorageMetrics

namespace Host

open StorageMetrics.Action Registry

/-! ## Refusals of a host -/

/-- On this host the action refuses just under this condition, and goes through otherwise. Refused,
and where the name is bound, it leaves every registry as it was. -/
structure Decided (t : Action Handle) (h : Host) (refused bound : Prop) : Prop where
  refuses : refused ↔ ∃ reason h', t h = .error (.registration reason) h'
  accepts : ¬ refused ↔ ∃ handle h', t h = .ok handle h'
  keeps : refused ∨ bound → (t.after h).registries = h.registries

variable {h g : Host} {id : Nat} {r : Registry}

theorem registries_of_settled_ok (holds : g.Holds id r) {t : Action Handle} {name : MetricName}
    {reg : Registration} (ran : t h = settled id name (.ok reg) g) (same : reg.registry = r) :
    (t.after h).registries = g.registries := by
  rw [after_of_ok ran, same, holds.registries_rebind]

/-- An action that settles a decision refuses what the decision refuses. -/
theorem Decided.of_settled {t : Action Handle} {name : MetricName} {refused : Prop}
    {decided : Except RegistrationError Registration} (ran : t h = settled id name decided g)
    (decides : r.Decides name refused decided) (holds : g.Holds id r)
    (same : g.registries = h.registries) : Decided t h refused (r.contains name = true) := by
  by_cases no : refused
  · obtain ⟨reason, refusal⟩ := decides.refuses no
    rw [refusal] at ran
    refine ⟨⟨fun _ => ⟨reason, g, ran⟩, fun _ => no⟩, ⟨absurd no, ?_⟩, fun _ => ?_⟩
    · rintro ⟨handle, h', other⟩
      rw [ran] at other
      cases other
    · rw [after_of_error ran, same]
  · obtain ⟨reg, accepted⟩ := decides.accepts no
    rw [accepted] at ran
    refine ⟨⟨fun yes => absurd yes no, ?_⟩, ⟨fun _ => ⟨reg.bound, _, ran⟩, fun _ => no⟩, ?_⟩
    · rintro ⟨reason, h', other⟩
      rw [ran] at other
      cases other
    · rintro (yes | bound)
      · exact absurd yes no
      · rw [registries_of_settled_ok holds ran (decides.keeps reg accepted bound), same]

/-- A reachable registry refuses what its bindings say it refuses, whatever led to them, and a
refused call or one for a bound name changes nothing. -/
theorem registrations_decided (h : Host) (id : Nat) (r : Registry) (holds : h.Holds id r)
    (reachable : r.Reachable) (name : MetricName) :
    (∀ offer, Decided (register id name offer) h (r.Refuses name offer) (r.contains name)) ∧
    Decided (counter id name) h (r.RefusesKind name .counter) (r.contains name) ∧
    (∀ biased,
      Decided (histogram id name biased) h (r.RefusesKind name .histogram) (r.contains name)) ∧
    ∀ s : Registry, s.exportName = r.exportName →
      (∀ other, s.bindings.get? other = r.bindings.get? other) →
      (∀ offer, s.Refuses name offer ↔ r.Refuses name offer) ∧
      ∀ kind, s.RefusesKind name kind ↔ r.RefusesKind name kind := by
  have exact := reachable.exact
  refine ⟨fun offer => ?_, ?_, fun biased => ?_, fun s sameName sameBindings => ⟨?_, ?_⟩⟩
  · exact .of_settled (register_run holds name offer) (exact.register_decides name offer) holds rfl
  · exact .of_settled (counter_run holds name) (exact.obtain_decides .counter name _)
      (holds.withInstrument _) rfl
  · exact .of_settled (histogram_run holds name biased) (exact.obtain_decides .histogram name _)
      (holds.withInstrument _) rfl
  · exact Refuses.congr sameName sameBindings name
  · exact RefusesKind.congr sameName sameBindings name

/-! ## One counter -/

/-- A registry that holds the first counter of a process and nothing else. -/
def oneCounter (exportName : Value) (name : MetricName) : Registry :=
  ({ exportName := exportName } : Registry).bind name ⟨0, .counter⟩

/-- The host of a process that just made its first registry and a counter in it. -/
def counted (exportName : Value) (name : MetricName) : Host :=
  (counter 0 name).after (started exportName)

theorem counter_of_empty (exportName : Value) (name : MetricName) :
    ({ exportName := exportName } : Registry).counter name 0 =
      .ok ⟨oneCounter exportName name, ⟨0, .counter⟩, false⟩ := by
  have unbound : ({ exportName := exportName } : Registry).bindings.get? name = none := rfl
  rw [Registry.counter, obtain_of_unbound unbound]
  refine register_of_fits unbound fun entry found => ?_
  cases OrderedMap.mem_of_get? found

theorem oneCounter_reachable (exportName : Value) (name : MetricName) :
    (oneCounter exportName name).Reachable :=
  .obtained (.empty exportName) (counter_of_empty exportName name)

theorem counted_eq (exportName : Value) (name : MetricName) : counted exportName name =
    ((started exportName).withInstrument (.counter Counter.start)).rebind 0
      (oneCounter exportName name) [] := by
  have ran := counter_run (started_holds exportName) name
  have none_before : (started exportName).instruments.size = 0 := by
    obtain ⟨series, targets, journal, same⟩ := started_eq exportName
    rw [same]
    rfl
  rw [none_before, counter_of_empty] at ran
  exact after_of_ok ran

theorem counted_holds (exportName : Value) (name : MetricName) :
    (counted exportName name).Holds 0 (oneCounter exportName name) := by
  rw [counted_eq]
  exact ((started_holds _).withInstrument _).rebind _ _

/-- Another spelling of the counter's label takes no gauge. -/
theorem oneCounter_refuses :
    (oneCounter (.str "db") (TableScope.all.name "DbSeek")).Refuses (TableScope.all.name "db-seek")
      (.instrument ⟨7, .gauge⟩) := by
  refine Or.inr ⟨by decide +kernel, TableScope.all.name "DbSeek", ⟨0, .counter⟩, ?_, ?_, ?_⟩ <;>
    decide +kernel

theorem registrations_decided_oneCounter :
    (counted (.str "db") (TableScope.all.name "DbSeek")).Holds 0
        (oneCounter (.str "db") (TableScope.all.name "DbSeek")) ∧
      (oneCounter (.str "db") (TableScope.all.name "DbSeek")).Reachable ∧ ∃ reason h',
        register 0 (TableScope.all.name "db-seek") (.instrument ⟨7, .gauge⟩)
          (counted (.str "db") (TableScope.all.name "DbSeek")) = .error (.registration reason) h' :=
  ⟨counted_holds _ _, oneCounter_reachable _ _,
    ((registrations_decided _ 0 _ (counted_holds _ _) (oneCounter_reachable _ _)
      (TableScope.all.name "db-seek")).1 _).refuses.mp oneCounter_refuses⟩

end Host

end StorageMetrics
