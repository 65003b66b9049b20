import StorageMetrics.Proofs.Registry.Refusal

/-
  Removals from exact registries. A removal takes away the one name and leaves every other binding
  as it is (`Exact.names_remove`, `Exact.get?_remove`), and so do many removals one after the other
  (`Exact.names_removeAll`, `Exact.get?_removeAll`).
-/

namespace StorageMetrics.Registry

variable {r : Registry}

/-! ## One name -/

theorem mem_names_of_get? {name : MetricName} {h : Handle} (bound : r.bindings.get? name = some h) :
    name ∈ r.names := OrderedMap.mem_keys_of_get? bound

/-- A removal takes away the one name. -/
theorem Exact.names_remove (exact : r.Exact) (name : MetricName) :
    (r.remove name).1.names = r.names.filter (· ≠ name) := by
  rw [names, exact.bindings_remove]
  exact OrderedMap.keys_erase exact.names_nodup

theorem Exact.exportName_remove (exact : r.Exact) (name : MetricName) :
    (r.remove name).1.exportName = r.exportName := by
  cases hb : r.bindings.get? name with
  | none => rw [remove_of_unbound hb]
  | some h => rw [exact.remove_of_bound hb]; rfl

theorem Exact.get?_remove (exact : r.Exact) (name other : MetricName) :
    (r.remove name).1.bindings.get? other =
      if name = other then none else r.bindings.get? other := by
  rw [exact.bindings_remove]
  exact OrderedMap.get?_erase r.bindings name other

/-- What is bound after a removal was bound before. -/
theorem Exact.get?_of_remove (exact : r.Exact) {name other : MetricName} {hd : Handle}
    (bound : (r.remove name).1.bindings.get? other = some hd) :
    r.bindings.get? other = some hd := by
  rw [exact.get?_remove] at bound
  split at bound
  · cases bound
  · exact bound

/-- A removal of a bound name leaves one name less. -/
theorem Exact.length_names_remove (exact : r.Exact) (name : MetricName) :
    (if r.contains name then 1 else 0) + (r.remove name).1.names.length = r.names.length := by
  have erased : r.names.filter (· ≠ name) = r.names.erase name := by
    rw [List.Nodup.erase_eq_filter exact.names_nodup]
    exact List.filter_congr fun other _ => by rw [bne, beq_eq_decide, decide_not]
  rw [exact.names_remove, erased]
  cases hb : r.contains name with
  | true =>
    obtain ⟨held, bound⟩ := contains_iff.mp hb
    have mem := mem_names_of_get? bound
    have some_name := List.length_pos_of_mem mem
    rw [if_pos rfl, List.length_erase_of_mem mem]
    omega
  | false =>
    have absent : name ∉ r.names := by
      intro mem
      obtain ⟨held, bound⟩ := OrderedMap.mem_keys_iff.mp mem
      rw [contains_iff.mpr ⟨held, bound⟩] at hb
      cases hb
    rw [if_neg Bool.false_ne_true, List.erase_of_not_mem absent, Nat.zero_add]

/-! ## Many names -/

/-- The registry once all of these names are removed. -/
def removeAll (r : Registry) (names : List MetricName) : Registry :=
  names.foldl (fun r name => (r.remove name).1) r

/-- Removing names one after the other takes away just these. -/
theorem Exact.names_removeAll (exact : r.Exact) (gone : List MetricName) :
    (r.removeAll gone).names = r.names.filter (· ∉ gone) := by
  induction gone generalizing r with
  | nil => simp [Registry.removeAll]
  | cons name rest ih =>
    show ((r.remove name).1.removeAll rest).names = _
    rw [ih (exact.remove name), exact.names_remove, List.filter_filter]
    refine List.filter_congr fun other _ => ?_
    simp [Bool.and_comm]

/-- All other names keep what is bound to them. -/
theorem Exact.get?_removeAll (exact : r.Exact) {gone : List MetricName} {other : MetricName}
    (spared : other ∉ gone) : (r.removeAll gone).bindings.get? other = r.bindings.get? other := by
  induction gone generalizing r with
  | nil => rfl
  | cons name rest ih =>
    rw [List.mem_cons, not_or] at spared
    obtain ⟨differs, spared⟩ := spared
    show ((r.remove name).1.removeAll rest).bindings.get? other = _
    rw [ih (exact.remove name) spared, exact.get?_remove, if_neg (Ne.symm differs)]

end StorageMetrics.Registry
