import StorageMetrics.Proofs.Host.Unaltered

/-
  Questions to a registry that nobody meddled with. Nothing is marked and no stray stands among its
  bindings, so every question is answered by what is bound, and asking changes nothing: the
  instrument under a name (`lookUp_run`), whether a name is bound (`isBound_run`), the names
  (`namesIn_run`), how many there are (`size_run`) and the inventory (`inventoryOf_run`).
-/

namespace StorageMetrics.Host

open StorageMetrics.Action

variable {h : Host} {id : Nat} {r : Registry}

/-! ## Nothing stands beside the bindings -/

theorem isAltered_eq_false_iff : isAltered h id = false ↔
    (h.strays.any fun s => s.kind ∈ [.bindings, .familyShapes, .familySizes] && s.owner = id) = false ∧
      ∀ m ∈ h.marks, m.item.same (.registry id) = false := by
  unfold isAltered
  rw [Bool.or_eq_false_iff]
  simp

/-- Where everything is intact and nothing strayed, every registry is held. -/
theorem Intact.holds (intact : h.Intact) (tidy : h.strays = []) {a : AttachedRegistry}
    (found : h.registries[id]? = some a) : h.Holds id a.registry where
  held := by rw [found]; rfl
  unaltered := isAltered_eq_false_iff.mpr ⟨by rw [tidy]; rfl, intact.same_eq_false rfl⟩

theorem strays?_bindings_run (quiet : h.isAltered id = false) :
    strays? .bindings id h = .ok none h := by
  have absent : (h.strays.find? fun s => s.kind = .bindings && s.owner = id) = none := by
    refine List.find?_eq_none.mpr fun s mem here => ?_
    have elsewhere := List.any_eq_false.mp (isAltered_eq_false_iff.mp quiet).1 s mem
    simp at here elsewhere
    exact elsewhere (Or.inl here.1) here.2
  rw [strays?, bind_of_ok (get_run h), absent]
  rfl

theorem straysOf_bindings_run (quiet : h.isAltered id = false) :
    straysOf .bindings id h = .ok [] h := by
  rw [straysOf, bind_of_ok (strays?_bindings_run quiet)]
  rfl

theorem entriesAhead_run (quiet : h.isAltered id = false) (own : List α) :
    entriesAhead .bindings id own h = .ok own h := by
  rw [entriesAhead, bind_of_ok (strays?_bindings_run quiet)]
  rfl

theorem requireNames_run (quiet : h.isAltered id = false) : requireNames id h = .ok () h := by
  rw [requireNames, bind_of_ok (straysOf_bindings_run quiet)]
  rfl

/-! ## The questions -/

theorem lookUp_run (holds : h.Holds id r) (name : MetricName) :
    lookUp (.registry id) name h = .ok (r.get? name, r.contains name) h := by
  obtain ⟨a, found, rfl⟩ := holds.exists_attached
  rw [lookUp, bind_of_ok (holds.requireBindings_run _ _)]
  dsimp only [Item.names?]
  rw [bind_of_ok (Holds.getRegistry_run found)]
  rfl

theorem isBound_run (holds : h.Holds id r) (name : MetricName) :
    isBound (.registry id) name h = .ok (r.contains name) h := by
  obtain ⟨a, found, rfl⟩ := holds.exists_attached
  rw [isBound, bind_of_ok (Item.requireUnmarked_run (holds.mark?_registry _)),
    bind_of_ok (Item.markedValue?_run (holds.mark?_registry _))]
  dsimp only [Item.names?]
  rw [bind_of_ok (Holds.getRegistry_run found)]
  rfl

theorem namesIn_run (holds : h.Holds id r) (scope : Value) :
    namesIn id scope h = .ok (r.namesIn scope) h := by
  obtain ⟨a, found, rfl⟩ := holds.exists_attached
  rw [namesIn, bind_of_ok (Item.requireAllUnmarked_run fun name _ => holds.mark?_registry name),
    bind_of_ok (Item.markedValue?_run (holds.mark?_registry _))]
  dsimp only
  rw [bind_of_ok (requireNames_run holds.unaltered), bind_of_ok (Holds.getRegistry_run found)]
  rfl

theorem size_run (holds : h.Holds id r) : (Item.registry id).size h = .ok r.names.length h := by
  obtain ⟨a, found, rfl⟩ := holds.exists_attached
  have own : Item.storeSize .bindings id h = .ok a.registry.size h := by
    rw [Item.storeSize, bind_of_ok (Holds.getRegistry_run found)]
    rfl
  have shared : Item.sharedKeys .bindings id h = .ok [] h := rfl
  have counted : a.registry.names.length = a.registry.size := List.length_map _
  rw [Item.size, bind_of_ok (Item.requireUnmarked_run (holds.mark?_registry _)),
    bind_of_ok (Item.markedValue?_run (holds.mark?_registry _))]
  dsimp only
  rw [Item.fullSize, bind_of_ok shared, bind_of_ok (straysOf_bindings_run holds.unaltered),
    bind_of_ok own, counted]
  rfl

theorem inventoryOf_run (holds : h.Holds id r) (scope : Value) :
    inventoryOf (.registry id) scope h = .ok (r.inventory scope) h := by
  obtain ⟨a, found, rfl⟩ := holds.exists_attached
  have named : (Item.registry id).requireUnmarked "family_name" h = .ok () h :=
    Item.requireUnmarked_run (holds.mark?_registry _)
  have listed : (do requireNames id; pure (a.registry.inventory scope) : Action _) h =
      .ok (a.registry.inventory scope) h := by
    rw [bind_of_ok (requireNames_run holds.unaltered)]
    rfl
  rw [inventoryOf, bind_of_ok (holds.requireBindings_run _ _),
    bind_of_ok (Holds.getRegistry_run found), bind_of_ok (entriesAhead_run holds.unaltered _)]
  split
  · rw [bind_of_ok named]
    exact listed
  · exact listed

end StorageMetrics.Host
