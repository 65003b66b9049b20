import StorageMetrics.Proofs.Registry.Exact

/-
  Refusals as the bindings tell them: an offer that is none, a name that holds something else, and
  an unbound name whose family has a member of another shape. An exact registry refuses these and
  nothing else, and where the name is bound it stays as it is (`Exact.register_decides`,
  `Exact.obtain_decides`).
-/

namespace StorageMetrics

namespace Registry

/-! ## What is refused -/

/-- A bound name of the same family has another shape. -/
def Clashes (r : Registry) (name : MetricName) (shape : Shape) : Prop :=
  ∃ other held, r.bindings.get? other = some held ∧
    r.family other.name = r.family name.name ∧ shapeOf other.name held.kind ≠ shape

/-- What cannot be registered under a name. -/
def Refuses (r : Registry) (name : MetricName) : Offer → Prop
  | .other _ => True
  | .instrument h =>
    (∃ held, r.bindings.get? name = some held ∧ held.kind.series ≠ h.kind.series) ∨
      (r.bindings.get? name = none ∧ r.Clashes name (shapeOf name.name h.kind))

/-- An instrument of this kind cannot be had under a name. -/
def RefusesKind (r : Registry) (name : MetricName) (kind : InstrumentKind) : Prop :=
  (∃ held, r.bindings.get? name = some held ∧ held.kind ≠ kind) ∨
    (r.bindings.get? name = none ∧ r.Clashes name (shapeOf name.name kind))

variable {r : Registry}

/-- The family table knows of every clash, and of no other. -/
theorem Exact.clashes_iff (exact : r.Exact) (name : MetricName) (shape : Shape) :
    r.Clashes name shape ↔
      ∃ entry, r.families.get? (r.family name.name) = some entry ∧ entry.shape ≠ shape := by
  constructor
  · rintro ⟨other, held, bound, same, differs⟩
    have found := exact.get?_families_of_bound bound
    rw [same] at found
    exact ⟨_, found, differs⟩
  · rintro ⟨entry, found, differs⟩
    obtain ⟨other, bound, same⟩ :=
      (exact.mem_families_iff _).mp (OrderedMap.mem_keys_of_get? found)
    obtain ⟨held, bound⟩ := OrderedMap.mem_keys_iff.mp bound
    have shaped := exact.shape_eq other held bound
    rw [same, found, Option.map_some, Option.some.injEq] at shaped
    exact ⟨other, held, bound, same, shaped ▸ differs⟩

/-- Without a clash an unbound name takes the offer. -/
theorem Exact.register_of_no_clash (exact : r.Exact) {name : MetricName} {h : Handle}
    (unbound : r.bindings.get? name = none)
    (agrees : ¬ r.Clashes name (shapeOf name.name h.kind)) :
    r.register name (.instrument h) = .ok ⟨r.bind name h, h, false⟩ := by
  refine register_of_fits unbound fun entry found => ?_
  rw [exact.clashes_iff] at agrees
  by_contra differs
  exact agrees ⟨entry, found, differs⟩

theorem Exact.register_of_clashes (exact : r.Exact) {name : MetricName} {h : Handle}
    (unbound : r.bindings.get? name = none)
    (clashes : r.Clashes name (shapeOf name.name h.kind)) :
    ∃ reason, r.register name (.instrument h) = .error reason := by
  obtain ⟨entry, found, differs⟩ := (exact.clashes_iff _ _).mp clashes
  exact ⟨_, register_of_clash unbound found differs⟩

/-- A decision that refuses under this condition; otherwise it gives an instrument, and it changes
the registry only for a name that is not bound. -/
structure Decides (r : Registry) (name : MetricName) (refused : Prop)
    (decided : Except RegistrationError Registration) : Prop where
  refuses : refused → ∃ reason, decided = .error reason
  accepts : ¬ refused → ∃ reg, decided = .ok reg
  keeps : ∀ reg, decided = .ok reg → r.contains name = true → reg.registry = r

theorem contains_iff {name : MetricName} :
    r.contains name = true ↔ ∃ held, r.bindings.get? name = some held := by
  rw [contains, get?, Option.isSome_iff_exists]

theorem Exact.register_decides (exact : r.Exact) (name : MetricName) (offer : Offer) :
    r.Decides name (r.Refuses name offer) (r.register name offer) where
  refuses refused := by
    cases offer with
    | other kindName => exact ⟨_, register_other r name kindName⟩
    | instrument h =>
      obtain ⟨held, bound, differs⟩ | ⟨unbound, clashes⟩ := refused
      · exact ⟨_, by rw [register_of_bound bound, if_neg differs]⟩
      · exact exact.register_of_clashes unbound clashes
  accepts agrees := by
    cases offer with
    | other kindName => exact absurd trivial agrees
    | instrument h =>
      cases hb : r.bindings.get? name with
      | some held =>
        have same : held.kind.series = h.kind.series := by
          by_contra differs
          exact agrees (Or.inl ⟨held, hb, differs⟩)
        exact ⟨_, by rw [register_of_bound hb, if_pos same]⟩
      | none => exact ⟨_, exact.register_of_no_clash hb fun clashes => agrees (Or.inr ⟨hb, clashes⟩)⟩
  keeps reg ok bound := by
    obtain ⟨held, -, rfl⟩ | ⟨h, -, unbound, -, -⟩ := register_cases ok
    · rfl
    · obtain ⟨held, bound⟩ := contains_iff.mp bound
      rw [unbound] at bound
      cases bound

theorem Exact.obtain_decides (exact : r.Exact) (kind : InstrumentKind) (name : MetricName)
    (fresh : Nat) : r.Decides name (r.RefusesKind name kind) (r.obtain kind name fresh) where
  refuses refused := by
    obtain ⟨held, bound, differs⟩ | ⟨unbound, clashes⟩ := refused
    · exact ⟨_, by rw [obtain_of_bound bound, if_neg differs]⟩
    · rw [obtain_of_unbound unbound]
      exact exact.register_of_clashes unbound clashes
  accepts agrees := by
    cases hb : r.bindings.get? name with
    | some held =>
      have same : held.kind = kind := by
        by_contra differs
        exact agrees (Or.inl ⟨held, hb, differs⟩)
      exact ⟨_, by rw [obtain_of_bound hb, if_pos same]⟩
    | none =>
      rw [obtain_of_unbound hb]
      exact ⟨_, exact.register_of_no_clash hb fun clashes => agrees (Or.inr ⟨hb, clashes⟩)⟩
  keeps reg ok bound := by
    obtain ⟨held, -, -, rfl⟩ | ⟨unbound, -⟩ := obtain_cases ok
    · rfl
    · obtain ⟨held, bound⟩ := contains_iff.mp bound
      rw [unbound] at bound
      cases bound

/-! ## Bindings alone decide -/

theorem Clashes.congr {s : Registry} (sameName : s.exportName = r.exportName)
    (sameBindings : ∀ other, s.bindings.get? other = r.bindings.get? other) (name : MetricName)
    (shape : Shape) : s.Clashes name shape ↔ r.Clashes name shape := by
  unfold Clashes
  simp only [sameBindings, family_congr sameName]

/-- Registries of equal bindings refuse the same offers. -/
theorem Refuses.congr {s : Registry} (sameName : s.exportName = r.exportName)
    (sameBindings : ∀ other, s.bindings.get? other = r.bindings.get? other) (name : MetricName)
    (offer : Offer) : s.Refuses name offer ↔ r.Refuses name offer := by
  cases offer with
  | other kindName => rfl
  | instrument h => simp only [Refuses, sameBindings, Clashes.congr sameName sameBindings]

theorem RefusesKind.congr {s : Registry} (sameName : s.exportName = r.exportName)
    (sameBindings : ∀ other, s.bindings.get? other = r.bindings.get? other) (name : MetricName)
    (kind : InstrumentKind) : s.RefusesKind name kind ↔ r.RefusesKind name kind := by
  unfold RefusesKind
  rw [Clashes.congr sameName sameBindings]
  simp only [sameBindings]

end Registry

end StorageMetrics
