import StorageMetrics.Proofs.Host.LookUps
import StorageMetrics.Proofs.Host.Refusal
import StorageMetrics.Proofs.Registry.Inventory

/-
  Inventories that a host tells. What a registry tells about itself is the list of its bindings in
  strict order, whole or by scope, and so it is the same for every registry, here or in another
  process, that has the export name and binds the same (`inventory_lists_bindings`). The order in
  which two counters came makes no difference to it.
-/

namespace StorageMetrics.Host

open StorageMetrics.Action

/-- A registry whose names come from table scopes tells one entry for each bound name, with the parts
of the name, the type that its instrument is exported as and its family, in strict order of scope and
label. For a scope it tells those entries that have it. Any other such registry of the export name,
however it came to its bindings and whatever instruments they are, tells the same as long as its
bindings are exported alike. -/
theorem inventory_lists_bindings (h : Host) (id : Nat) (r : Registry) (holds : h.Holds id r)
    (reachable : r.Reachable) (named : ∀ name ∈ r.names, ∃ q : NameRequest, q.answer = .ok name) :
    ∃ entries, inventoryOf (.registry id) .none h = .ok entries h ∧ r.names.Nodup ∧
      entries.Perm (r.bindings.entries.map fun b =>
        ⟨b.1.name, b.1.scope, b.2.kind.series, r.family b.1.name, b.1.flat⟩) ∧
      entries.Pairwise (fun a b => a.scope < b.scope ∨ a.scope = b.scope ∧ a.name < b.name) ∧
      (∀ scope : String, inventoryOf (.registry id) (.str scope) h =
        .ok (entries.filter (·.scope = scope)) h) ∧
      ∀ (g : Host) (id' : Nat) (s : Registry), g.Holds id' s → s.Reachable →
        s.exportName = r.exportName →
        (∀ name, (r.get? name).map (·.kind.series) = (s.get? name).map (·.kind.series)) →
        ∀ scope, ∃ listed, inventoryOf (.registry id) scope h = .ok listed h ∧
          inventoryOf (.registry id') scope g = .ok listed g := by
  have exact := reachable.exact
  have fromScopes : r.Named := named
  refine ⟨r.inventory .none, inventoryOf_run holds .none, exact.names_nodup, r.inventory_perm,
    fromScopes.inventory_before exact .none, ?_, ?_⟩
  · intro scope
    rw [inventoryOf_run holds, fromScopes.inventory_str exact]
  · intro g id' s holds' reachable' exportName alike scope
    have bindsAlike : r.BindsAlike s := alike
    refine ⟨r.inventory scope, inventoryOf_run holds scope, ?_⟩
    rw [inventoryOf_run holds', bindsAlike.inventory_eq fromScopes exact reachable'.exact exportName]

/-! ## Two counters in either order -/

def tableSeek : MetricName := TableScope.all.name "DbSeek"

def shardSeek : MetricName := TableScope.all.shardName "DbSeek" 0

/-- A registry that got two counters, this one first. -/
def twoCounters (first second : MetricName) : Registry :=
  (oneCounter (.str "db") first).bind second ⟨1, .counter⟩

/-- The process of such a registry. -/
def withTwoCounters (first second : MetricName) : Host :=
  (counted (.str "db") first).rebind 0 (twoCounters first second) []

theorem withTwoCounters_holds (first second : MetricName) :
    (withTwoCounters first second).Holds 0 (twoCounters first second) :=
  (counted_holds _ _).rebind _ _

/-- Counters under one label do not clash. -/
theorem twoCounters_reachable {first second : MetricName} (differ : first ≠ second)
    (alike : first.name = second.name) : (twoCounters first second).Reachable := by
  have reachable := oneCounter_reachable (.str "db") first
  have bound : (oneCounter (.str "db") first).bindings.get? first = some ⟨0, .counter⟩ := by
    rw [oneCounter, Registry.get?_bindings_bind, if_pos rfl]
  have unbound : (oneCounter (.str "db") first).bindings.get? second = none := by
    rw [oneCounter, Registry.get?_bindings_bind, if_neg differ]
    rfl
  have ran : (oneCounter (.str "db") first).register second (.instrument ⟨1, .counter⟩) =
      .ok ⟨twoCounters first second, ⟨1, .counter⟩, false⟩ := by
    refine Registry.register_of_fits unbound fun entry found => ?_
    have shape := reachable.exact.shape_eq first _ bound
    rw [alike, found] at shape
    exact Option.some.inj shape
  exact .registered reachable ran

theorem get?_twoCounters (first second name : MetricName) :
    ((twoCounters first second).get? name).map (·.kind.series) =
      if name = first ∨ name = second then some .counter else none := by
  show ((twoCounters first second).bindings.get? name).map _ = _
  rw [twoCounters, Registry.get?_bindings_bind, oneCounter, Registry.get?_bindings_bind]
  by_cases last : second = name
  · rw [if_pos last, if_pos (Or.inr last.symm)]
    rfl
  · rw [if_neg last]
    by_cases before : first = name
    · rw [if_pos before, if_pos (Or.inl before.symm)]
      rfl
    · have neither : ¬(name = first ∨ name = second) := by
        rintro (rfl | rfl)
        · exact before rfl
        · exact last rfl
      rw [if_neg before, if_neg neither]
      rfl

theorem twoCounters_named : ∀ name ∈ (twoCounters tableSeek shardSeek).names,
    ∃ q : NameRequest, q.answer = .ok name := by
  have spelled : IsNamePart "DbSeek" :=
    TableScope.isNamePart_of_all (by decide) (by decide +kernel)
  intro name mem
  have both : name = tableSeek ∨ name = shardSeek := by
    by_contra neither
    obtain ⟨hd, bound⟩ := OrderedMap.mem_keys_iff.mp mem
    have series := get?_twoCounters tableSeek shardSeek name
    rw [if_neg neither] at series
    rw [Registry.get?, bound] at series
    cases series
  rcases both with rfl | rfl
  · exact ⟨_, NameRequest.answer_eq_ok_iff.mpr ⟨TableScope.all, "DbSeek", none, spelled, rfl, rfl⟩⟩
  · exact ⟨_, NameRequest.answer_eq_ok_iff.mpr ⟨TableScope.all, "DbSeek", some 0, spelled, rfl, rfl⟩⟩

theorem inventory_lists_bindings_twoCounters :
    (withTwoCounters tableSeek shardSeek).Holds 0 (twoCounters tableSeek shardSeek) ∧
      (twoCounters tableSeek shardSeek).Reachable ∧
      (∀ name ∈ (twoCounters tableSeek shardSeek).names, ∃ q : NameRequest, q.answer = .ok name) ∧
      (withTwoCounters shardSeek tableSeek).Holds 0 (twoCounters shardSeek tableSeek) ∧
      (twoCounters shardSeek tableSeek).Reachable ∧
      (twoCounters tableSeek shardSeek).names ≠ (twoCounters shardSeek tableSeek).names ∧
      ∃ listed, listed.length = 2 ∧
        inventoryOf (.registry 0) .none (withTwoCounters tableSeek shardSeek) =
          .ok listed (withTwoCounters tableSeek shardSeek) ∧
        inventoryOf (.registry 0) .none (withTwoCounters shardSeek tableSeek) =
          .ok listed (withTwoCounters shardSeek tableSeek) := by
  have differ : tableSeek ≠ shardSeek := by decide +kernel
  have holds := withTwoCounters_holds tableSeek shardSeek
  have holds' := withTwoCounters_holds shardSeek tableSeek
  have reachable := twoCounters_reachable differ rfl
  have reachable' := twoCounters_reachable (Ne.symm differ) rfl
  have alike (name : MetricName) :
      ((twoCounters tableSeek shardSeek).get? name).map (·.kind.series) =
        ((twoCounters shardSeek tableSeek).get? name).map (·.kind.series) := by
    rw [get?_twoCounters, get?_twoCounters]
    exact if_congr or_comm rfl rfl
  have orders : (twoCounters tableSeek shardSeek).names ≠ (twoCounters shardSeek tableSeek).names := by
    decide +kernel
  obtain ⟨entries, told, -, perm, -, -, canonical⟩ :=
    inventory_lists_bindings _ 0 _ holds reachable twoCounters_named
  obtain ⟨listed, here, there⟩ := canonical _ 0 _ holds' reachable' rfl alike .none
  cases told.symm.trans here
  refine ⟨holds, reachable, twoCounters_named, holds', reachable', orders, entries, ?_, here, there⟩
  rw [perm.length_eq, List.length_map]
  decide +kernel

end StorageMetrics.Host
