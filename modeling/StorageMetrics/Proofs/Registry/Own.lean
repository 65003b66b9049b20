import StorageMetrics.Proofs.Registry.Removal
import StorageMetrics.Proofs.Surface.Labels

/-
  Registries of own labels. Where every bound name has a label of the library and holds the kind of
  instrument that the label stands for, no further name of that sort is refused, bound or unbound,
  and nothing that is bound already gives way (`Own.register_adds`, `Own.obtain_adds`). Removals
  keep it like that (`Own.remove`).
-/

namespace StorageMetrics.Registry

/-- Exact, and nothing is bound but what the library binds under labels of its own. -/
structure Own (r : Registry) : Prop where
  exact : r.Exact
  labels : ∀ name h, r.bindings.get? name = some h → OwnLabel name.name h.kind

/-- One more name is bound, or was bound before; all others stay as they are. -/
structure Adds (r : Registry) (name : MetricName) (bound : Handle) (s : Registry) : Prop where
  own : s.Own
  bound : s.bindings.get? name = some bound
  names_iff : ∀ other, other ∈ s.names ↔ other ∈ r.names ∨ other = name
  kept : ∀ other h, r.bindings.get? other = some h → s.bindings.get? other = some h

variable {r : Registry}

theorem own_empty (exportName : Value) : ({ exportName := exportName } : Registry).Own where
  exact := exact_empty exportName
  labels _ _ bound := by cases OrderedMap.mem_of_get? bound

/-- Where the family of an own label has a member, it has the label's shape. -/
theorem Own.not_clashes (own : r.Own) {name : MetricName} {kind : InstrumentKind}
    (label : OwnLabel name.name kind) : ¬ r.Clashes name (shapeOf name.name kind) := by
  rintro ⟨other, held, bound, same, differs⟩
  have forms : Label.snake (Label.base other.name) = Label.snake (Label.base name.name) := by
    unfold family at same
    exact (String.append_right_inj _).mp same
  exact differs ((own.labels other held bound).shape_eq label forms)

theorem Own.kind_eq (own : r.Own) {name : MetricName} {kind : InstrumentKind}
    (label : OwnLabel name.name kind) {held : Handle} (bound : r.bindings.get? name = some held) :
    held.kind = kind := (own.labels name held bound).kind_eq label

/-- What is bound already is there to be had. -/
theorem Own.adds_self (own : r.Own) {name : MetricName} {held : Handle}
    (bound : r.bindings.get? name = some held) : r.Adds name held r where
  own := own
  bound := bound
  names_iff other := by
    constructor
    · exact Or.inl
    · rintro (mem | rfl)
      · exact mem
      · exact mem_names_of_get? bound
  kept _ _ := id

theorem Own.adds_bind (own : r.Own) {name : MetricName} {h : Handle}
    (label : OwnLabel name.name h.kind) (unbound : r.bindings.get? name = none)
    (ok : r.register name (.instrument h) = .ok ⟨r.bind name h, h, false⟩) :
    r.Adds name h (r.bind name h) where
  own := by
    refine ⟨own.exact.register ok, fun other held bound => ?_⟩
    rw [get?_bindings_bind] at bound
    split at bound
    case isTrue same =>
      cases bound
      rw [← same]
      exact label
    case isFalse => exact own.labels other held bound
  bound := by rw [get?_bindings_bind, if_pos rfl]
  names_iff other := by rw [names_bind unbound, List.mem_append, List.mem_singleton]
  kept other held bound := by
    rw [get?_bindings_bind, if_neg, bound]
    rintro rfl
    rw [unbound] at bound
    cases bound

/-- An instrument of the kind that the label stands for is never refused. -/
theorem Own.register_adds (own : r.Own) {name : MetricName} {h : Handle}
    (label : OwnLabel name.name h.kind) :
    ∃ reg, r.register name (.instrument h) = .ok reg ∧ r.Adds name reg.bound reg.registry := by
  cases hb : r.bindings.get? name with
  | some held =>
    refine ⟨⟨r, held, true⟩, ?_, own.adds_self hb⟩
    rw [register_of_bound hb, if_pos (congrArg _ (own.kind_eq label hb))]
  | none =>
    have ok := own.exact.register_of_no_clash hb (own.not_clashes label)
    exact ⟨_, ok, own.adds_bind label hb ok⟩

theorem Own.obtain_adds (own : r.Own) {name : MetricName} {kind : InstrumentKind}
    (label : OwnLabel name.name kind) (fresh : Nat) :
    ∃ reg, r.obtain kind name fresh = .ok reg ∧ r.Adds name reg.bound reg.registry := by
  cases hb : r.bindings.get? name with
  | some held =>
    refine ⟨⟨r, held, true⟩, ?_, own.adds_self hb⟩
    rw [obtain_of_bound hb, if_pos (own.kind_eq label hb)]
  | none =>
    rw [obtain_of_unbound hb]
    exact own.register_adds label

/-! ## Removals -/

theorem Own.remove (own : r.Own) (name : MetricName) : (r.remove name).1.Own where
  exact := own.exact.remove name
  labels other h bound := own.labels other h (own.exact.get?_of_remove bound)

theorem Own.removeAll (own : r.Own) (gone : List MetricName) : (r.removeAll gone).Own := by
  induction gone generalizing r with
  | nil => exact own
  | cons name rest ih => exact ih (own.remove name)

end StorageMetrics.Registry
