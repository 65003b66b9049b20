import StorageMetrics.Proofs.Registry.Reachable
import StorageMetrics.Proofs.Registry.Refusal

/-
  Names wanted one after the other. A wanted name that is bound stays as it is, one that is not is
  bound to an instrument made for it, and at the first one that is refused it is over: what was bound
  until then stays bound. `Follows` is the way through such a list, and `Follows.extendedBy` what the
  registry has at the end of it.
-/

namespace StorageMetrics

/-- What is wanted of a registry: an offer of a kind under a name, or the instrument of this very
kind under it. -/
inductive Wanted where
  | offered (name : MetricName) (kind : InstrumentKind)
  | obtained (name : MetricName) (kind : InstrumentKind)

namespace Wanted

def name : Wanted → MetricName
  | offered name _ => name
  | obtained name _ => name

def kind : Wanted → InstrumentKind
  | offered _ kind => kind
  | obtained _ kind => kind

/-- The registry refuses what is wanted. An offer is refused whichever instrument it is. -/
def RefusedBy (w : Wanted) (r : Registry) : Prop :=
  match w with
  | offered name kind => ∀ n, r.Refuses name (.instrument ⟨n, kind⟩)
  | obtained name kind => r.RefusesKind name kind

/-- How the registry decides, given the number of a fresh instrument. -/
def decide (w : Wanted) (r : Registry) (fresh : Nat) : Except RegistrationError Registration :=
  match w with
  | offered name kind => r.register name (.instrument ⟨fresh, kind⟩)
  | obtained name kind => r.obtain kind name fresh

variable {r : Registry} {w : Wanted} {fresh : Nat}

/-- What goes through finds its name bound, or binds the fresh instrument. -/
theorem decide_cases {reg : Registration} (ok : w.decide r fresh = .ok reg) :
    (w.name ∈ r.names ∧ reg.registry = r) ∨
      (r.bindings.get? w.name = none ∧ reg.registry = r.bind w.name ⟨fresh, w.kind⟩) := by
  have registered {name : MetricName} {kind : InstrumentKind}
      (ok : r.register name (.instrument ⟨fresh, kind⟩) = .ok reg) :
      (name ∈ r.names ∧ reg.registry = r) ∨
        (r.bindings.get? name = none ∧ reg.registry = r.bind name ⟨fresh, kind⟩) := by
    obtain ⟨held, bound, rfl⟩ | ⟨h, offer, unbound, -, rfl⟩ := Registry.register_cases ok
    · exact Or.inl ⟨OrderedMap.mem_keys_of_get? bound, rfl⟩
    · cases offer
      exact Or.inr ⟨unbound, rfl⟩
  cases w with
  | offered name kind => exact registered ok
  | obtained name kind =>
    obtain ⟨held, bound, -, rfl⟩ | ⟨-, ok⟩ := Registry.obtain_cases ok
    · exact Or.inl ⟨OrderedMap.mem_keys_of_get? bound, rfl⟩
    · exact registered ok

theorem reachable_of_decide (reachable : r.Reachable) {reg : Registration}
    (ok : w.decide r fresh = .ok reg) : reg.registry.Reachable := by
  cases w with
  | offered name kind =>
    have registered : r.register name (.instrument ⟨fresh, kind⟩) = .ok reg := ok
    exact reachable.registered registered
  | obtained name kind =>
    have obtained : r.obtain kind name fresh = .ok reg := ok
    exact reachable.obtained obtained

/-- What does not go through is refused. -/
theorem refusedBy_of_decide (exact : r.Exact) {reason : RegistrationError}
    (failed : w.decide r fresh = .error reason) : w.RefusedBy r := by
  by_contra agrees
  cases w with
  | offered name kind =>
    obtain ⟨n, agrees⟩ := not_forall.mp agrees
    -- whether an offer is refused does not depend on the number of the instrument
    have same : r.Refuses name (.instrument ⟨n, kind⟩) ↔ r.Refuses name (.instrument ⟨fresh, kind⟩) :=
      Iff.rfl
    rw [same] at agrees
    obtain ⟨reg, ok⟩ := (exact.register_decides name _).accepts agrees
    cases failed.symm.trans ok
  | obtained name kind =>
    obtain ⟨reg, ok⟩ := (exact.obtain_decides kind name fresh).accepts agrees
    cases failed.symm.trans ok

end Wanted

namespace Registry

/-- From the one registry to the other: each name of the list was bound already, or is bound to an
instrument made for it, whose number is at least this one. -/
inductive Follows (made : Nat) : Registry → List Wanted → Registry → Prop where
  | done {r : Registry} : Follows made r [] r
  | found {r s : Registry} {w : Wanted} {rest : List Wanted} (bound : w.name ∈ r.names)
      (after : Follows made r rest s) : Follows made r (w :: rest) s
  | binds {r s : Registry} {w : Wanted} {rest : List Wanted} {fresh : Nat}
      (unbound : r.bindings.get? w.name = none) (new : made ≤ fresh)
      (after : Follows made (r.bind w.name ⟨fresh, w.kind⟩) rest s) : Follows made r (w :: rest) s

/-- The registry has, after what it had, the names of this list that were not bound, in order. They
are bound to instruments that were made since, and the family table says what the bindings say. -/
structure ExtendedBy (r : Registry) (made : Nat) (names : List MetricName) (s : Registry) : Prop where
  exportName_eq : s.exportName = r.exportName
  exact : s.Exact
  entries : ∃ new, s.bindings.entries = r.bindings.entries ++ new ∧
    new.map (·.1) = names.filter (· ∉ r.names) ∧ ∀ b ∈ new, made ≤ b.2.id

namespace Follows

variable {made : Nat} {r s t : Registry} {ws : List Wanted}

theorem append {ws' : List Wanted} (first : Follows made r ws s) (rest : Follows made s ws' t) :
    Follows made r (ws ++ ws') t := by
  induction first with
  | done => exact rest
  | found bound _ ih => exact .found bound (ih rest)
  | binds unbound new _ ih => exact .binds unbound new (ih rest)

theorem single {w : Wanted} {fresh : Nat} (new : made ≤ fresh) {reg : Registration}
    (ok : w.decide r fresh = .ok reg) : Follows made r [w] reg.registry := by
  obtain ⟨bound, same⟩ | ⟨unbound, same⟩ := Wanted.decide_cases ok
  · rw [same]
    exact .found bound .done
  · rw [same]
    exact .binds unbound new .done

theorem exportName_eq (follows : Follows made r ws s) : s.exportName = r.exportName := by
  induction follows with
  | done => rfl
  | found _ _ ih => exact ih
  | binds _ _ _ ih => exact ih

/-- The names that were not bound come after those that were, in the order of the list. -/
theorem entries (follows : Follows made r ws s) (nodup : (ws.map Wanted.name).Nodup) :
    ∃ new, s.bindings.entries = r.bindings.entries ++ new ∧
      new.map (·.1) = (ws.map Wanted.name).filter (· ∉ r.names) ∧ ∀ b ∈ new, made ≤ b.2.id := by
  induction follows with
  | done => exact ⟨[], (List.append_nil _).symm, rfl, List.forall_mem_nil _⟩
  | found bound after ih =>
    obtain ⟨new, entries, names, since⟩ := ih (List.nodup_cons.mp nodup).2
    refine ⟨new, entries, names.trans ?_, since⟩
    rw [List.map_cons, List.filter_cons_of_neg (by simpa using bound)]
  | @binds r s w rest fresh unbound fits after ih =>
    obtain ⟨other, nodup⟩ := List.nodup_cons.mp nodup
    obtain ⟨new, entries, names, since⟩ := ih nodup
    have absent : w.name ∉ r.names := OrderedMap.get?_eq_none_iff.mp unbound
    refine ⟨(w.name, ⟨fresh, w.kind⟩) :: new, ?_, ?_, List.forall_mem_cons.mpr ⟨fits, since⟩⟩
    · have bound : (r.bind w.name ⟨fresh, w.kind⟩).bindings.entries =
          r.bindings.entries ++ [(w.name, ⟨fresh, w.kind⟩)] :=
        OrderedMap.entries_insert_of_not_mem absent
      rw [entries, bound, List.append_assoc]
      rfl
    · rw [List.map_cons, List.map_cons, List.filter_cons_of_pos (by simpa using absent), names]
      -- the new name does not come again, so it is no reason to leave one out
      refine congrArg (w.name :: ·) (List.filter_congr fun name mem => decide_eq_decide.mpr ?_)
      have different : name ≠ w.name := fun same => other (same ▸ mem)
      rw [names_bind unbound, List.mem_append, List.mem_singleton]
      simp [different]

theorem extendedBy (follows : Follows made r ws s) (nodup : (ws.map Wanted.name).Nodup)
    (exact : s.Exact) : r.ExtendedBy made (ws.map Wanted.name) s :=
  ⟨follows.exportName_eq, exact, follows.entries nodup⟩

/-- The registry is the one it was just when all names were bound already. -/
theorem eq_iff (follows : Follows made r ws s) (nodup : (ws.map Wanted.name).Nodup) :
    s = r ↔ ∀ w ∈ ws, w.name ∈ r.names := by
  constructor
  · rintro rfl
    obtain ⟨new, entries, names, -⟩ := follows.entries nodup
    obtain rfl : new = [] := List.append_right_eq_self.mp entries.symm
    intro w mem
    have kept := List.filter_eq_nil_iff.mp names.symm w.name (List.mem_map_of_mem mem)
    simpa using kept
  · intro bound
    induction follows with
    | done => rfl
    | found _ _ ih =>
      exact ih (List.nodup_cons.mp nodup).2 fun w mem => bound w (List.mem_cons_of_mem _ mem)
    | binds unbound _ _ _ =>
      exact absurd (bound _ List.mem_cons_self) (OrderedMap.get?_eq_none_iff.mp unbound)

end Follows

end Registry

end StorageMetrics
