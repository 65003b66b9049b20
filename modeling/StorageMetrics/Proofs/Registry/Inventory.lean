import StorageMetrics.Proofs.MetricName
import StorageMetrics.Proofs.Registry.Reachable
import StorageMetrics.Registry.Inventory
import Mathlib.Data.Prod.Lex
import Mathlib.Data.String.Basic

/-
  Inventories depend on what is bound, and on nothing else. Their order is that of pairs of scope and
  label, and where all names are such as a table scope gives, that pair tells the name
  (`NameRequest.eq_of_place`). So no two entries tie, the order is strict (`Named.inventory_before`),
  and a list in strict order is told by its members (`InventoryEntry.eq_of_mem_iff`). Registries that
  bind alike have the same entries and hence one inventory (`BindsAlike.inventory_eq`), and that of a
  scope is the part of the whole that has the scope (`Named.inventory_str`).
-/

namespace StorageMetrics

/-! ## The order of entries -/

namespace InventoryEntry

/-- The scope comes earlier, or it is the same and the label comes earlier. -/
def Before (a b : InventoryEntry) : Prop := a.scope < b.scope ∨ a.scope = b.scope ∧ a.name < b.name

/-- What the order looks at, the scope before the label. -/
def place (e : InventoryEntry) : String ×ₗ String := toLex (e.scope, e.name)

variable {a b : InventoryEntry}

theorem before_iff : a.Before b ↔ a.place < b.place := by
  unfold Before place
  rw [Prod.Lex.toLex_lt_toLex]

theorem le_iff : le a b = true ↔ a.place ≤ b.place := by
  unfold le place
  rw [Prod.Lex.toLex_le_toLex]
  by_cases same : a.scope = b.scope
  · simp [same]
  · simp [same]

theorem le_of_le_of_le (a b c : InventoryEntry) (first : le a b = true) (second : le b c = true) :
    le a c = true := by
  rw [le_iff] at *
  exact le_trans first second

theorem le_or_le (a b : InventoryEntry) : (le a b || le b a) = true := by
  rw [Bool.or_eq_true, le_iff, le_iff]
  exact le_total a.place b.place

/-- Two lists in strict order with the same members are one list. -/
theorem eq_of_mem_iff {xs ys : List InventoryEntry} (ordered : xs.Pairwise Before)
    (ordered' : ys.Pairwise Before) (same : ∀ e, e ∈ xs ↔ e ∈ ys) : xs = ys := by
  have nodup {zs : List InventoryEntry} (ordered : zs.Pairwise Before) : zs.Nodup := by
    refine ordered.imp fun {a b} before equal => ?_
    rw [before_iff, equal] at before
    exact lt_irrefl _ before
  have perm : xs.Perm ys :=
    (List.perm_ext_iff_of_nodup (nodup ordered) (nodup ordered')).mpr same
  refine perm.eq_of_pairwise (fun a b _ _ before after => ?_) ordered ordered'
  rw [before_iff] at before after
  exact absurd after (lt_asymm before)

end InventoryEntry

/-! ## Names that are told by scope and label -/

/-- Scope and label tell an accepted name. -/
theorem NameRequest.eq_of_place {q q' : NameRequest} {n n' : MetricName} (accepted : q.answer = .ok n)
    (accepted' : q'.answer = .ok n') (scopes : n.scope = n'.scope) (labels : n.name = n'.name) :
    n = n' := by
  obtain ⟨s, label, shard, -, -, rfl⟩ := answer_eq_ok_iff.mp accepted
  obtain ⟨s', label', shard', -, -, rfl⟩ := answer_eq_ok_iff.mp accepted'
  exact TableScope.build_eq_iff_scope.mpr (Prod.ext scopes labels)

namespace Registry

/-- All bound names are such as a table scope gives. -/
def Named (r : Registry) : Prop := ∀ name ∈ r.names, ∃ q : NameRequest, q.answer = .ok name

variable {r s : Registry}

/-! ## What is listed -/

/-- What is bound is listed, in its scope and in the whole. -/
theorem mem_inventory_iff (exact : r.Exact) {scope : Value} {e : InventoryEntry} :
    e ∈ r.inventory scope ↔ ∃ name hd, r.bindings.get? name = some hd ∧ isIn scope name = true ∧
      r.inventoryEntry name hd = e := by
  unfold inventory
  rw [List.mem_mergeSort, List.mem_map]
  constructor
  · rintro ⟨b, mem, rfl⟩
    obtain ⟨bound, here⟩ := List.mem_filter.mp mem
    exact ⟨b.1, b.2, exact.get?_of_mem bound, here, rfl⟩
  · rintro ⟨name, hd, bound, here, rfl⟩
    exact ⟨(name, hd), List.mem_filter.mpr ⟨OrderedMap.mem_of_get? bound, here⟩, rfl⟩

/-- Every bound name has its entry. -/
theorem inventory_perm (r : Registry) :
    (r.inventory .none).Perm (r.bindings.entries.map fun b => r.inventoryEntry b.1 b.2) := by
  have all : r.bindings.entries.filter (fun b => isIn .none b.1) = r.bindings.entries :=
    List.filter_eq_self.mpr fun _ _ => rfl
  unfold inventory
  rw [all]
  exact List.mergeSort_perm _ _

/-! ## In which order -/

/-- No two names of a registry have one place. -/
theorem Named.places_nodup (named : r.Named) (exact : r.Exact) (scope : Value) :
    (((r.bindings.entries.filter fun b => isIn scope b.1).map
      fun b => r.inventoryEntry b.1 b.2).map InventoryEntry.place).Nodup := by
  have names : ((r.bindings.entries.filter fun b => isIn scope b.1).map (·.1)).Nodup :=
    exact.names_nodup.sublist (List.filter_sublist.map _)
  refine List.pairwise_map.mpr (List.pairwise_map.mpr ((List.pairwise_map.mp names).imp_of_mem ?_))
  intro b c memB memC differ same
  have bound : ∀ d ∈ r.bindings.entries.filter (fun b => isIn scope b.1), d.1 ∈ r.names :=
    fun d mem => List.mem_map_of_mem (List.mem_filter.mp mem).1
  obtain ⟨q, accepted⟩ := named b.1 (bound b memB)
  obtain ⟨q', accepted'⟩ := named c.1 (bound c memC)
  obtain ⟨scopes, labels⟩ := Prod.mk.inj (toLex.injective same)
  exact differ (NameRequest.eq_of_place accepted accepted' scopes labels)

/-- The entries stand in strict order. -/
theorem Named.inventory_before (named : r.Named) (exact : r.Exact) (scope : Value) :
    (r.inventory scope).Pairwise InventoryEntry.Before := by
  have sorted : (r.inventory scope).Pairwise fun a b => InventoryEntry.le a b = true := by
    unfold inventory
    exact List.pairwise_mergeSort InventoryEntry.le_of_le_of_le InventoryEntry.le_or_le _
  have apart : ((r.inventory scope).map InventoryEntry.place).Nodup :=
    ((List.mergeSort_perm _ _).map _).nodup_iff.mpr (named.places_nodup exact scope)
  refine (sorted.and (List.pairwise_map.mp apart)).imp fun {a b} ⟨le, differ⟩ => ?_
  rw [InventoryEntry.before_iff]
  exact lt_of_le_of_ne (InventoryEntry.le_iff.mp le) differ

/-! ## What it depends on -/

/-- The inventory of a scope is the part of the whole that has the scope. -/
theorem Named.inventory_str (named : r.Named) (exact : r.Exact) (scope : String) :
    r.inventory (.str scope) = (r.inventory .none).filter (·.scope = scope) := by
  refine InventoryEntry.eq_of_mem_iff (named.inventory_before exact _)
    ((named.inventory_before exact _).filter _) fun e => ?_
  rw [List.mem_filter, mem_inventory_iff exact, mem_inventory_iff exact]
  constructor
  · rintro ⟨name, hd, bound, here, rfl⟩
    exact ⟨⟨name, hd, bound, rfl, rfl⟩, here⟩
  · rintro ⟨⟨name, hd, bound, -, rfl⟩, here⟩
    exact ⟨name, hd, bound, here, rfl⟩

/-- The same names are bound in both, to instruments that are exported alike. -/
def BindsAlike (r s : Registry) : Prop :=
  ∀ name, (r.bindings.get? name).map (·.kind.series) = (s.bindings.get? name).map (·.kind.series)

theorem BindsAlike.symm (alike : r.BindsAlike s) : s.BindsAlike r := fun name => (alike name).symm

theorem BindsAlike.named (alike : r.BindsAlike s) (named : r.Named) : s.Named := by
  intro name mem
  obtain ⟨hd, bound⟩ := OrderedMap.mem_keys_iff.mp mem
  have both := alike name
  rw [bound] at both
  obtain ⟨hd', bound', -⟩ := Option.map_eq_some_iff.mp both
  exact named name (OrderedMap.mem_keys_of_get? bound')

/-- What the one registry lists, the other does. -/
theorem BindsAlike.mem_inventory (alike : r.BindsAlike s) (exact : r.Exact) (exact' : s.Exact)
    (exportName : s.exportName = r.exportName) {scope : Value} {e : InventoryEntry}
    (mem : e ∈ r.inventory scope) : e ∈ s.inventory scope := by
  obtain ⟨name, hd, bound, here, rfl⟩ := (mem_inventory_iff exact).mp mem
  have both := alike name
  rw [bound] at both
  obtain ⟨hd', bound', series⟩ := Option.map_eq_some_iff.mp both.symm
  refine (mem_inventory_iff exact').mpr ⟨name, hd', bound', here, ?_⟩
  unfold inventoryEntry family
  rw [series, exportName]

/-- Registries of one export name that bind alike have one inventory, however they came to it. -/
theorem BindsAlike.inventory_eq (alike : r.BindsAlike s) (named : r.Named) (exact : r.Exact)
    (exact' : s.Exact) (exportName : s.exportName = r.exportName) (scope : Value) :
    s.inventory scope = r.inventory scope :=
  InventoryEntry.eq_of_mem_iff ((alike.named named).inventory_before exact' scope)
    (named.inventory_before exact scope) fun _ =>
      ⟨alike.symm.mem_inventory exact' exact exportName.symm,
        alike.mem_inventory exact exact' exportName⟩

end Registry

end StorageMetrics
