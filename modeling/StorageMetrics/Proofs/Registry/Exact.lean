import StorageMetrics.Proofs.OrderedMap
import StorageMetrics.Registry.Basic

/-
  Exact family tables. A registry decides registrations by its family table and never looks through
  its bindings, so the table has to say of every family what the bindings say: it has a family as
  long as the family has a bound member, with the number of its members and their common shape.
  `Exact` is that invariant. An accepted registration and a removal keep it, and a removal finds the
  entry of its family (`Exact.remove`).
-/

namespace StorageMetrics.Registry

/-- The bound names of a family, in order. -/
def membersOf (r : Registry) (family : String) : List MetricName :=
  r.names.filter fun name => r.family name.name = family

/-- The family table says what the bindings say. -/
structure Exact (r : Registry) : Prop where
  names_nodup : r.names.Nodup
  families_nodup : r.families.keys.Nodup
  /-- The families of the table are those of the bound names. -/
  mem_families_iff : ∀ family,
    family ∈ r.families.keys ↔ ∃ name ∈ r.names, r.family name.name = family
  /-- Every family is counted member by member. -/
  members_eq : ∀ family entry, r.families.get? family = some entry →
    entry.members = (r.membersOf family).length
  /-- Every bound name has the shape of its family. -/
  shape_eq : ∀ name h, r.bindings.get? name = some h →
    (r.families.get? (r.family name.name)).map (·.shape) = some (shapeOf name.name h.kind)

/-! ## Members of families -/

theorem mem_membersOf {r : Registry} {family : String} {name : MetricName} :
    name ∈ r.membersOf family ↔ name ∈ r.names ∧ r.family name.name = family := by
  simp [membersOf]

/-- Families are named by export name and label alone. -/
theorem family_congr {r s : Registry} (same : s.exportName = r.exportName) (label : String) :
    s.family label = r.family label := by
  rw [family, family, same]

theorem family_bind (r : Registry) (name : MetricName) (h : Handle) (label : String) :
    (r.bind name h).family label = r.family label := rfl

theorem get?_bindings_bind (r : Registry) (name other : MetricName) (h : Handle) :
    (r.bind name h).bindings.get? other =
      if name = other then some h else r.bindings.get? other :=
  OrderedMap.get?_insert r.bindings name other h

/-- A family has a bound name as long as it has members. -/
theorem exists_member_iff {r : Registry} {family : String} :
    (∃ name ∈ r.names, r.family name.name = family) ↔ (r.membersOf family).length ≠ 0 := by
  rw [ne_eq, List.length_eq_zero_iff]
  constructor
  · rintro ⟨name, bound, same⟩
    exact List.ne_nil_of_mem (mem_membersOf.mpr ⟨bound, same⟩)
  · intro some_member
    obtain ⟨name, member⟩ := List.exists_mem_of_ne_nil _ some_member
    exact ⟨name, mem_membersOf.mp member⟩

theorem names_bind {r : Registry} {name : MetricName} (unbound : r.bindings.get? name = none)
    (h : Handle) : (r.bind name h).names = r.names ++ [name] :=
  OrderedMap.keys_insert_of_not_mem (OrderedMap.get?_eq_none_iff.mp unbound)

theorem membersOf_bind {r : Registry} {name : MetricName} (unbound : r.bindings.get? name = none)
    (h : Handle) (family : String) :
    (r.bind name h).membersOf family =
      r.membersOf family ++ if r.family name.name = family then [name] else [] := by
  have same : (r.bind name h).membersOf family =
      (r.bind name h).names.filter fun other => r.family other.name = family :=
    List.filter_congr fun other _ => decide_eq_decide.mpr (by rw [family_bind])
  rw [same, names_bind unbound h, List.filter_append, membersOf]
  by_cases hf : r.family name.name = family <;> simp [hf]

/-- The registry without a name; its family table is left as it is. -/
def without (r : Registry) (name : MetricName) : Registry :=
  { r with bindings := r.bindings.erase name }

theorem family_without (r : Registry) (name : MetricName) (label : String) :
    (r.without name).family label = r.family label := rfl

theorem names_without {r : Registry} (nodup : r.names.Nodup) (name : MetricName) :
    (r.without name).names = r.names.filter (· ≠ name) :=
  OrderedMap.keys_erase nodup

theorem membersOf_without {r : Registry} (nodup : r.names.Nodup) (name : MetricName)
    (family : String) :
    (r.without name).membersOf family = (r.membersOf family).erase name := by
  have same : (r.without name).membersOf family =
      (r.without name).names.filter fun other => r.family other.name = family :=
    List.filter_congr fun other _ => decide_eq_decide.mpr (by rw [family_without])
  rw [same, names_without nodup, membersOf, List.Nodup.erase_eq_filter (nodup.filter _),
    List.filter_filter, List.filter_filter]
  refine List.filter_congr fun other _ => ?_
  rw [Bool.and_comm]
  by_cases h : other = name <;> simp [h]

/-! ## What a decision does -/

theorem register_other (r : Registry) (name : MetricName) (kindName : String) :
    r.register name (.other kindName) = .error (.unsupported kindName) := rfl

/-- A bound name keeps its instrument, for offers of the same series. -/
theorem register_of_bound {r : Registry} {name : MetricName} {held : Handle}
    (bound : r.bindings.get? name = some held) (h : Handle) :
    r.register name (.instrument h) =
      if held.kind.series = h.kind.series then .ok ⟨r, held, true⟩
      else .error (.heldByOtherSeries name held.kind h.kind) := by
  unfold register
  simp only [bound]
  by_cases hs : held.kind.series = h.kind.series
  · rw [if_neg (not_not.mpr hs), if_pos hs]
  · rw [if_pos hs, if_neg hs]

/-- An unbound name takes the offer, if the family has its shape or has no member yet. -/
theorem register_of_fits {r : Registry} {name : MetricName} {h : Handle}
    (unbound : r.bindings.get? name = none)
    (fits : ∀ entry, r.families.get? (r.family name.name) = some entry →
      entry.shape = shapeOf name.name h.kind) :
    r.register name (.instrument h) = .ok ⟨r.bind name h, h, false⟩ := by
  unfold register
  simp only [unbound]
  cases hf : r.families.get? (r.family name.name) with
  | none => rfl
  | some entry => exact if_neg (not_not.mpr (fits entry hf))

theorem register_of_clash {r : Registry} {name : MetricName} {h : Handle} {entry : Family.Entry}
    (unbound : r.bindings.get? name = none)
    (found : r.families.get? (r.family name.name) = some entry)
    (clash : entry.shape ≠ shapeOf name.name h.kind) :
    r.register name (.instrument h) =
      .error (.familyShape (r.family name.name) entry.shape name h.kind.series) := by
  unfold register
  simp only [unbound, found]
  exact if_pos clash

/-- A registration that goes through finds the name bound, or binds it in a family of its shape. -/
theorem register_cases {r : Registry} {name : MetricName} {offer : Offer} {reg : Registration}
    (ok : r.register name offer = .ok reg) :
    (∃ held, r.bindings.get? name = some held ∧ reg = ⟨r, held, true⟩) ∨
    (∃ h, offer = .instrument h ∧ r.bindings.get? name = none ∧
      (∀ entry, r.families.get? (r.family name.name) = some entry →
        entry.shape = shapeOf name.name h.kind) ∧
      reg = ⟨r.bind name h, h, false⟩) := by
  cases offer with
  | other kindName => rw [register_other] at ok; cases ok
  | instrument h =>
    cases hb : r.bindings.get? name with
    | some held =>
      rw [register_of_bound hb] at ok
      split at ok
      · exact Or.inl ⟨held, rfl, (Except.ok.inj ok).symm⟩
      · cases ok
    | none =>
      by_cases fits : ∀ entry, r.families.get? (r.family name.name) = some entry →
          entry.shape = shapeOf name.name h.kind
      · rw [register_of_fits hb fits] at ok
        exact Or.inr ⟨h, rfl, rfl, fits, (Except.ok.inj ok).symm⟩
      · obtain ⟨entry, clash⟩ := not_forall.mp fits
        obtain ⟨found, clash⟩ := Classical.not_imp.mp clash
        rw [register_of_clash hb found clash] at ok
        cases ok

/-- What is obtained was bound already, or is registered like any other instrument. -/
theorem obtain_of_unbound {r : Registry} {name : MetricName} (unbound : r.bindings.get? name = none)
    (kind : InstrumentKind) (fresh : Nat) :
    r.obtain kind name fresh = r.register name (.instrument ⟨fresh, kind⟩) := by
  unfold obtain
  simp only [unbound]

theorem obtain_of_bound {r : Registry} {name : MetricName} {held : Handle}
    (bound : r.bindings.get? name = some held) (kind : InstrumentKind) (fresh : Nat) :
    r.obtain kind name fresh =
      if held.kind = kind then .ok ⟨r, held, true⟩
      else .error (.otherKind name held.kind kind) := by
  unfold obtain
  simp only [bound]
  by_cases hk : held.kind = kind
  · rw [if_neg (not_not.mpr hk), if_pos hk, register_of_bound bound, if_pos rfl]
  · rw [if_pos hk, if_neg hk]

theorem obtain_cases {r : Registry} {kind : InstrumentKind} {name : MetricName} {fresh : Nat}
    {reg : Registration} (ok : r.obtain kind name fresh = .ok reg) :
    (∃ held, r.bindings.get? name = some held ∧ held.kind = kind ∧ reg = ⟨r, held, true⟩) ∨
    (r.bindings.get? name = none ∧ r.register name (.instrument ⟨fresh, kind⟩) = .ok reg) := by
  cases hb : r.bindings.get? name with
  | none => exact Or.inr ⟨rfl, by rwa [obtain_of_unbound hb] at ok⟩
  | some held =>
    rw [obtain_of_bound hb] at ok
    split at ok
    · rename_i hk
      exact Or.inl ⟨held, rfl, hk, (Except.ok.inj ok).symm⟩
    · cases ok

/-! ## The invariant is kept -/

theorem exact_empty (exportName : Value) : Exact { exportName := exportName } where
  names_nodup := List.nodup_nil
  families_nodup := List.nodup_nil
  mem_families_iff := by simp [names, OrderedMap.keys]
  members_eq := fun _ _ h => by cases h
  shape_eq := fun _ _ h => by cases h

namespace Exact

variable {r : Registry} (exact : r.Exact)


include exact

/-- What is listed is what is bound. -/
theorem get?_of_mem {b : MetricName × Handle} (mem : b ∈ r.bindings.entries) :
    r.bindings.get? b.1 = some b.2 :=
  (OrderedMap.get?_eq_some_iff_mem exact.names_nodup).mpr mem

/-- A family that is not in the table counts as one without members. -/
theorem members_getD (family : String) :
    ((r.families.get? family).map (·.members)).getD 0 = (r.membersOf family).length := by
  cases hf : r.families.get? family with
  | some entry => exact exact.members_eq family entry hf
  | none =>
    have absent := OrderedMap.get?_eq_none_iff.mp hf
    rw [exact.mem_families_iff, exists_member_iff, not_not] at absent
    rw [absent]
    rfl

theorem get?_families_bind (name : MetricName) (h : Handle) (family : String) :
    (r.bind name h).families.get? family =
      if r.family name.name = family then
        some ⟨shapeOf name.name h.kind, (r.membersOf family).length + 1⟩
      else r.families.get? family := by
  unfold Registry.bind
  simp only [OrderedMap.get?_insert, exact.members_getD]
  by_cases hf : r.family name.name = family
  · rw [if_pos hf, if_pos hf, hf]
  · rw [if_neg hf, if_neg hf]

theorem bind {name : MetricName} (unbound : r.bindings.get? name = none) (h : Handle)
    (fits : ∀ entry, r.families.get? (r.family name.name) = some entry →
      entry.shape = shapeOf name.name h.kind) : (r.bind name h).Exact where
  names_nodup := OrderedMap.nodup_keys_insert exact.names_nodup
  families_nodup := OrderedMap.nodup_keys_insert exact.families_nodup
  mem_families_iff family := by
    have known : family ∈ (r.bind name h).families.keys ↔
        family = r.family name.name ∨ family ∈ r.families.keys := OrderedMap.mem_keys_insert
    rw [known, exact.mem_families_iff, names_bind unbound h]
    simp only [family_bind]
    constructor
    · rintro (rfl | ⟨other, bound, same⟩)
      · exact ⟨name, by simp, rfl⟩
      · exact ⟨other, by simp [bound], same⟩
    · rintro ⟨other, bound, same⟩
      rcases List.mem_append.mp bound with bound | bound
      · exact Or.inr ⟨other, bound, same⟩
      · rw [List.mem_singleton.mp bound] at same
        exact Or.inl same.symm
  members_eq family entry found := by
    rw [exact.get?_families_bind] at found
    rw [membersOf_bind unbound h, List.length_append]
    by_cases hf : r.family name.name = family
    · rw [if_pos hf] at found
      rw [← Option.some.inj found, if_pos hf]
      rfl
    · rw [if_neg hf] at found
      rw [exact.members_eq family entry found, if_neg hf]
      rfl
  shape_eq other held bound := by
    rw [get?_bindings_bind] at bound
    rw [family_bind, exact.get?_families_bind]
    by_cases hn : name = other
    · subst hn
      rw [if_pos rfl] at bound ⊢
      rw [Option.map_some, Option.some.inj bound]
    · rw [if_neg hn] at bound
      have shaped := exact.shape_eq other held bound
      by_cases hf : r.family name.name = r.family other.name
      · -- the new member has the shape that the family had
        obtain ⟨entry, found, same⟩ := Option.map_eq_some_iff.mp shaped
        rw [hf] at fits
        rw [if_pos hf, Option.map_some, ← fits entry found, same]
      · rw [if_neg hf, shaped]

theorem register {name : MetricName} {offer : Offer} {reg : Registration}
    (ok : r.register name offer = .ok reg) : reg.registry.Exact := by
  obtain ⟨held, -, rfl⟩ | ⟨h, -, unbound, fits, rfl⟩ := register_cases ok
  · exact exact
  · exact exact.bind unbound h fits

theorem obtain {kind : InstrumentKind} {name : MetricName} {fresh : Nat} {reg : Registration}
    (ok : r.obtain kind name fresh = .ok reg) : reg.registry.Exact := by
  obtain ⟨held, -, -, rfl⟩ | ⟨-, ok⟩ := obtain_cases ok
  · exact exact
  · exact exact.register ok

/-- A bound name has its family in the table. -/
theorem get?_families_of_bound {name : MetricName} {h : Handle}
    (bound : r.bindings.get? name = some h) :
    r.families.get? (r.family name.name) =
      some ⟨shapeOf name.name h.kind, (r.membersOf (r.family name.name)).length⟩ := by
  obtain ⟨entry, found, shaped⟩ := Option.map_eq_some_iff.mp (exact.shape_eq name h bound)
  have counted := exact.members_eq _ entry found
  rw [found, ← shaped, ← counted]

/-- Bound names of one family have one shape. -/
theorem shape_eq_of_family_eq {name other : MetricName} {h h' : Handle}
    (bound : r.bindings.get? name = some h) (bound' : r.bindings.get? other = some h')
    (same : r.family name.name = r.family other.name) :
    shapeOf name.name h.kind = shapeOf other.name h'.kind := by
  have shaped := exact.shape_eq name h bound
  rw [same, exact.shape_eq other h' bound', Option.some.injEq] at shaped
  exact shaped.symm

/-- What a removal does to the family table. -/
theorem remove_of_bound {name : MetricName} {h : Handle} (bound : r.bindings.get? name = some h) :
    r.remove name =
      ({ r.without name with
        families :=
          if (r.membersOf (r.family name.name)).length = 1 then r.families.erase (r.family name.name)
          else r.families.insert (r.family name.name)
            ⟨shapeOf name.name h.kind, (r.membersOf (r.family name.name)).length - 1⟩ }, .ok true) := by
  have found := exact.get?_families_of_bound bound
  have same : ({ r with bindings := r.bindings.erase name } : Registry).family name.name =
      r.family name.name := rfl
  unfold remove
  simp only [bound, same, found]
  rfl

/-- The members of a family once a name is unbound. -/
theorem length_membersOf_without {name : MetricName} (bound : name ∈ r.names) (family : String) :
    ((r.without name).membersOf family).length =
      (r.membersOf family).length - if r.family name.name = family then 1 else 0 := by
  rw [membersOf_without exact.names_nodup]
  by_cases hf : r.family name.name = family
  · rw [if_pos hf, List.length_erase_of_mem (mem_membersOf.mpr ⟨bound, hf⟩)]
  · have absent : name ∉ r.membersOf family := fun h => hf (mem_membersOf.mp h).2
    rw [if_neg hf, List.erase_of_not_mem absent, Nat.sub_zero]

/-- A family goes with its last member; otherwise it has one member less. -/
theorem get?_families_remove {name : MetricName} {h : Handle}
    (bound : r.bindings.get? name = some h) (family : String) :
    (r.remove name).1.families.get? family =
      if r.family name.name = family then
        if (r.membersOf family).length = 1 then none
        else some ⟨shapeOf name.name h.kind, (r.membersOf family).length - 1⟩
      else r.families.get? family := by
  rw [exact.remove_of_bound bound]
  by_cases hf : r.family name.name = family
  · rw [if_pos hf, hf]
    split
    · rw [OrderedMap.get?_erase, if_pos rfl]
    · rw [OrderedMap.get?_insert, if_pos rfl]
  · rw [if_neg hf]
    dsimp only
    split
    · rw [OrderedMap.get?_erase, if_neg hf]
    · rw [OrderedMap.get?_insert, if_neg hf]

theorem length_membersOf_remove {name : MetricName} {h : Handle}
    (bound : r.bindings.get? name = some h) (family : String) :
    ((r.remove name).1.membersOf family).length =
      (r.membersOf family).length - if r.family name.name = family then 1 else 0 := by
  rw [exact.remove_of_bound bound]
  exact exact.length_membersOf_without (OrderedMap.mem_keys_of_get? bound) family

omit exact in
theorem remove_of_unbound {name : MetricName} (unbound : r.bindings.get? name = none) :
    r.remove name = (r, .ok false) := by
  unfold Registry.remove
  simp only [unbound]

theorem bindings_remove (name : MetricName) :
    (r.remove name).1.bindings = r.bindings.erase name := by
  cases hb : r.bindings.get? name with
  | none =>
    rw [remove_of_unbound hb, OrderedMap.erase_of_not_mem (OrderedMap.get?_eq_none_iff.mp hb)]
  | some h => rw [exact.remove_of_bound hb]; rfl

theorem family_remove (name : MetricName) (label : String) :
    (r.remove name).1.family label = r.family label := by
  cases hb : r.bindings.get? name with
  | none => rw [remove_of_unbound hb]
  | some h => rw [exact.remove_of_bound hb]; rfl

omit exact in
/-- Two names of one family are two members. -/
theorem length_membersOf_ne_one {name other : MetricName} (bound : name ∈ r.names)
    (bound' : other ∈ r.names) (same : r.family other.name = r.family name.name)
    (distinct : name ≠ other) : (r.membersOf (r.family name.name)).length ≠ 1 := by
  intro single
  obtain ⟨only, shown⟩ := List.length_eq_one_iff.mp single
  have member : name ∈ r.membersOf (r.family name.name) := mem_membersOf.mpr ⟨bound, rfl⟩
  have member' : other ∈ r.membersOf (r.family name.name) := mem_membersOf.mpr ⟨bound', same⟩
  rw [shown, List.mem_singleton] at member member'
  exact distinct (member.trans member'.symm)

theorem mem_families_remove_iff {name : MetricName} {h : Handle}
    (bound : r.bindings.get? name = some h) (family : String) :
    family ∈ (r.remove name).1.families.keys ↔
      ((r.remove name).1.membersOf family).length ≠ 0 := by
  rw [exact.length_membersOf_remove bound, OrderedMap.mem_keys_iff, exact.get?_families_remove bound]
  by_cases hf : r.family name.name = family
  · have here : name ∈ r.membersOf family :=
      mem_membersOf.mpr ⟨OrderedMap.mem_keys_of_get? bound, hf⟩
    have some_member := List.length_pos_of_mem here
    rw [if_pos hf, if_pos hf]
    by_cases last : (r.membersOf family).length = 1
    · rw [if_pos last]
      exact iff_of_false (fun ⟨_, h⟩ => nomatch h) (by omega)
    · rw [if_neg last]
      exact iff_of_true ⟨_, rfl⟩ (by omega)
  · rw [if_neg hf, if_neg hf, ← OrderedMap.mem_keys_iff, exact.mem_families_iff, exists_member_iff,
      Nat.sub_zero]

theorem remove_of_mem {name : MetricName} {h : Handle} (bound : r.bindings.get? name = some h) :
    (r.remove name).1.Exact where
  names_nodup := by
    rw [names, exact.bindings_remove]
    exact OrderedMap.nodup_keys_erase exact.names_nodup
  families_nodup := by
    rw [exact.remove_of_bound bound]
    dsimp only
    split
    · exact OrderedMap.nodup_keys_erase exact.families_nodup
    · exact OrderedMap.nodup_keys_insert exact.families_nodup
  mem_families_iff family := by
    rw [exact.mem_families_remove_iff bound, exists_member_iff]
  members_eq family entry found := by
    rw [exact.get?_families_remove bound] at found
    rw [exact.length_membersOf_remove bound]
    by_cases hf : r.family name.name = family
    · rw [if_pos hf] at found ⊢
      split at found
      · cases found
      · rw [← Option.some.inj found]
    · rw [if_neg hf] at found ⊢
      exact exact.members_eq family entry found
  shape_eq other held kept := by
    rw [exact.bindings_remove, OrderedMap.get?_erase] at kept
    by_cases hn : name = other
    · rw [if_pos hn] at kept
      cases kept
    · rw [if_neg hn] at kept
      have shaped := exact.shape_eq other held kept
      rw [exact.family_remove, exact.get?_families_remove bound]
      by_cases hf : r.family name.name = r.family other.name
      · -- the other name is a member that is left, and both names have the family's shape
        have two := length_membersOf_ne_one (OrderedMap.mem_keys_of_get? bound)
          (OrderedMap.mem_keys_of_get? kept) hf.symm hn
        rw [← hf, exact.get?_families_of_bound bound] at shaped
        rw [if_pos hf, if_neg (by rwa [← hf])]
        exact shaped
      · rw [if_neg hf, shaped]

theorem remove (name : MetricName) : (r.remove name).1.Exact := by
  cases hb : r.bindings.get? name with
  | none => rwa [remove_of_unbound hb]
  | some h => exact exact.remove_of_mem hb

/-- A removal never misses the entry of a family; it tells whether the name was bound. -/
theorem remove_answer (name : MetricName) :
    (r.remove name).2 = .ok (r.contains name) := by
  rw [contains, get?]
  cases hb : r.bindings.get? name with
  | none => rw [remove_of_unbound hb]; rfl
  | some h => rw [exact.remove_of_bound hb]; rfl

end Exact

end StorageMetrics.Registry
