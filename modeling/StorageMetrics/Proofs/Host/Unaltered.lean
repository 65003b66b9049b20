import StorageMetrics.Host.Registration
import StorageMetrics.Proofs.Host.Action
import StorageMetrics.Proofs.Registry.Exact

/-
  Registries that nobody meddled with. An operation of a registry asks for marks and strays at every
  step; where the registry is unaltered it finds none, and then it does to the registry what the
  decision of `Registry` says and touches nothing else of the host (`register_run`, `counter_run`,
  `histogram_run`, `remove_run`).
-/

namespace StorageMetrics

/-! ## Items without marks -/

/-- An item that nothing was put on has no mark under any name. -/
theorem Host.mark?_of_unmarked {h : Host} {item : Item}
    (unmarked : ∀ m ∈ h.marks, m.item.same item = false) (name : String) :
    h.mark? item name = none := by
  have absent : (h.marks.find? fun m => m.item.same item && m.name = name) = none := by
    refine List.find?_eq_none.mpr fun m mem => ?_
    simp [unmarked m mem]
  rw [Host.mark?, absent]
  rfl

/-- The item is one of the sources that are asked by name, and that may have other parts. -/
def Item.isAsked : Item → Bool
  | engine _ | statistics _ => true
  | _ => false

theorem Item.isAsked_of_asStatistics {item : Item} (counted : item.asStatistics.isNone = false) :
    item.isAsked = true := by
  cases item <;> first | rfl | cases counted

theorem Item.same_of_isAsked {item other : Item} (asked : item.isAsked = true)
    (own : other.isAsked = false) : item.same other = false := by
  cases item with
  | engine id => cases other <;> first | rfl | cases own
  | statistics id => cases other <;> first | rfl | cases own
  | _ => cases asked

namespace Host

/-- Nothing but engines and statistics was given other parts. -/
def Intact (h : Host) : Prop := ∀ m ∈ h.marks, m.item.isAsked = true

theorem intact_of_unmarked {h : Host} (unmarked : h.marks = []) : h.Intact := by
  unfold Intact
  rw [unmarked]
  exact List.forall_mem_nil _

theorem Intact.same_eq_false {h : Host} (intact : h.Intact) {item : Item}
    (own : item.isAsked = false) : ∀ m ∈ h.marks, m.item.same item = false :=
  fun m mem => Item.same_of_isAsked (intact m mem) own

theorem Intact.mark? {h : Host} (intact : h.Intact) {item : Item} (own : item.isAsked = false)
    (name : String) : h.mark? item name = none :=
  mark?_of_unmarked (intact.same_eq_false own) name

end Host

namespace Item

variable {h : Host} {item : Item} {name : String}

theorem mark?_run (unmarked : h.mark? item name = none) : item.mark? name h = .ok none h := by
  rw [mark?, Action.bind_of_ok (Action.get_run h), unmarked]
  rfl

theorem markedValue?_run (unmarked : h.mark? item name = none) :
    item.markedValue? name h = .ok none h := by
  rw [markedValue?, Action.bind_of_ok (mark?_run unmarked)]
  rfl

theorem requireUnmarked_run (unmarked : h.mark? item name = none) :
    item.requireUnmarked name h = .ok () h := by
  rw [requireUnmarked, Action.bind_of_ok (mark?_run unmarked)]
  rfl

theorem requireAllUnmarked_run {names : List String}
    (unmarked : ∀ name ∈ names, h.mark? item name = none) :
    item.requireAllUnmarked names h = .ok () h := by
  unfold requireAllUnmarked
  induction names with
  | nil => rfl
  | cons name rest ih =>
    show (item.requireUnmarked name >>= fun _ => rest.forM item.requireUnmarked) h = _
    rw [Action.bind_of_ok (requireUnmarked_run (unmarked name List.mem_cons_self))]
    exact ih fun name mem => unmarked name (List.mem_cons_of_mem _ mem)

/-- Looking for marks under any names, and finding none. -/
theorem mapM_mark?_run (unmarked : ∀ name, h.mark? item name = none) (names : List String) :
    names.mapM item.mark? h = .ok (names.map fun _ => none) h := by
  induction names with
  | nil => rfl
  | cons name rest ih =>
    rw [List.mapM_cons, Action.bind_of_ok (mark?_run (unmarked name)), Action.bind_of_ok ih]
    rfl

end Item

namespace Host

theorem requireOwn_run {h : Host} {item : Item} {part : String} (asked : String)
    (unmarked : h.mark? item part = none) : requireOwn item part asked h = .ok () h := by
  rw [requireOwn, Action.bind_of_ok (Item.mark?_run unmarked)]
  rfl

/-! ## The registry of a host -/

/-- The host has this registry under the number, and nobody meddled with it. -/
structure Holds (h : Host) (id : Nat) (r : Registry) : Prop where
  held : (h.registries[id]?).map (·.registry) = some r
  unaltered : isAltered h id = false

/-- The host with other contents of a registry, and with further reports. -/
def rebind (h : Host) (id : Nat) (r : Registry) (reports : Journal) : Host :=
  { h with
    registries := h.registries.modify id fun a => { a with registry := r }
    journal := h.journal ++ reports }

/-- The host with one more instrument. -/
def withInstrument (h : Host) (i : Instrument) : Host :=
  { h with instruments := h.instruments.push i }

namespace Holds

variable {h : Host} {id : Nat} {r : Registry}

theorem exists_attached (holds : h.Holds id r) :
    ∃ a, h.registries[id]? = some a ∧ a.registry = r :=
  Option.map_eq_some_iff.mp holds.held

theorem withInstrument (holds : h.Holds id r) (i : Instrument) : (h.withInstrument i).Holds id r :=
  ⟨holds.held, holds.unaltered⟩

theorem rebind (holds : h.Holds id r) (s : Registry) (reports : Journal) :
    (h.rebind id s reports).Holds id s := by
  obtain ⟨a, found, -⟩ := holds.exists_attached
  refine ⟨?_, holds.unaltered⟩
  unfold Host.rebind
  simp [Array.getElem?_modify, found]

/-- Putting the same contents back changes no registry. -/
theorem registries_rebind (holds : h.Holds id r) (reports : Journal) :
    (h.rebind id r reports).registries = h.registries := by
  obtain ⟨a, found, rfl⟩ := holds.exists_attached
  unfold Host.rebind
  refine Array.ext_getElem? fun i => ?_
  rw [Array.getElem?_modify]
  by_cases hi : id = i
  · subst hi
    rw [if_pos rfl, found]
    rfl
  · rw [if_neg hi]

theorem rebind_self (holds : h.Holds id r) : h.rebind id r [] = h := by
  have registries : h.registries.modify id (fun a => { a with registry := r }) = h.registries :=
    holds.registries_rebind []
  rw [Host.rebind, registries, List.append_nil]

theorem mark?_registry (holds : h.Holds id r) (name : String) :
    h.mark? (.registry id) name = none := by
  have quiet := holds.unaltered
  unfold isAltered at quiet
  have unmarked : ∀ m ∈ h.marks, m.item.same (.registry id) = false := by
    simpa using (Bool.or_eq_false_iff.mp quiet).2
  exact mark?_of_unmarked unmarked name

theorem getRegistry_run {a : AttachedRegistry} (found : h.registries[id]? = some a) :
    getRegistry id h = .ok a h := Action.look_run found

theorem requireBindings_run (holds : h.Holds id r) (operation asked : String) :
    requireBindings id operation asked h = .ok () h := by
  rw [requireBindings, Action.bind_of_ok (Item.requireAllUnmarked_run fun name _ =>
    holds.mark?_registry name)]
  exact requireOwn_run asked (holds.mark?_registry _)

theorem makeWay_run (holds : h.Holds id r) (name : MetricName) (handle : Handle) :
    makeWay id name handle h = .ok () h := by
  rw [makeWay, Action.bind_of_ok (Action.get_run h), holds.unaltered]
  rfl

end Holds

/-! ## What the operations of a registry do -/

/-- The reports of an accepted registration. -/
def reuseReports (name : MetricName) (reg : Registration) : Journal :=
  if reg.reused then [reuseEntry name] else []

/-- How a registration ends that was decided so. -/
def settled (id : Nat) (name : MetricName) (decided : Except RegistrationError Registration)
    (h : Host) : EStateM.Result Fault Host Handle :=
  match decided with
  | .error e => .error (.registration e) h
  | .ok reg => .ok reg.bound (h.rebind id reg.registry (reuseReports name reg))

variable {h : Host} {id : Nat} {r : Registry}

/-- Writing the registry back with other contents. -/
theorem setRegistry_run {a : AttachedRegistry} (found : h.registries[id]? = some a) (s : Registry) :
    setRegistry id { a with registry := s } h = .ok () (h.rebind id s []) := by
  have same : h.registries.setIfInBounds id { a with registry := s } =
      h.registries.modify id fun a => { a with registry := s } := by
    refine Array.ext_getElem? fun i => ?_
    rw [Array.getElem?_modify, Array.getElem?_setIfInBounds]
    by_cases hi : id = i
    · subst hi
      rw [if_pos rfl, if_pos rfl, found, if_pos (Array.getElem?_eq_some_iff.mp found).1]
      rfl
    · rw [if_neg hi, if_neg hi]
  unfold rebind
  rw [← same, List.append_nil]
  rfl

theorem commit_run (holds : h.Holds id r) (name : MetricName)
    (decided : Except RegistrationError Registration) :
    commit id name decided h = settled id name decided h := by
  obtain ⟨a, found, -⟩ := holds.exists_attached
  cases decided with
  | error e => rfl
  | ok reg =>
    have accepted : Action.ofExcept ((Except.ok reg).mapError Fault.registration) h = .ok reg h := rfl
    have written (g : Host) (found : g.registries[id]? = some a) :
        (do let a ← getRegistry id
            setRegistry id { a with registry := reg.registry }
            pure reg.bound : Action Handle) g = .ok reg.bound (g.rebind id reg.registry []) := by
      rw [Action.bind_of_ok (Holds.getRegistry_run found), Action.bind_of_ok (setRegistry_run found _)]
      rfl
    rw [commit, Action.bind_of_ok accepted]
    unfold settled reuseReports
    cases hr : reg.reused with
    | true =>
      rw [if_pos rfl]
      refine (Action.bind_of_ok (Action.report_run h _) _).trans
        ((written { h with journal := h.journal ++ [reuseEntry name] } found).trans ?_)
      simp [rebind, hr]
    | false =>
      rw [if_neg Bool.false_ne_true]
      refine (written h found).trans ?_
      simp [hr]

/-- Registering decides as the registry does, and a refusal leaves the host as it was. -/
theorem register_run (holds : h.Holds id r) (name : MetricName) (offer : Offer) :
    register id name offer h = settled id name (r.register name offer) h := by
  obtain ⟨a, found, rfl⟩ := holds.exists_attached
  rw [register, Action.bind_of_ok (Item.requireUnmarked_run (holds.mark?_registry _))]
  have decided : (do
      let a ← getRegistry id
      commit id name (a.registry.register name offer) : Action Handle) h =
        settled id name (a.registry.register name offer) h := by
    rw [Action.bind_of_ok (Holds.getRegistry_run found), commit_run holds]
  cases offer with
  | other kindName => exact decided
  | instrument handle =>
    dsimp only
    rw [Action.bind_of_ok (holds.requireBindings_run _ _), Action.bind_of_ok (holds.makeWay_run _ _)]
    exact decided

theorem requireObtainable_run (holds : h.Holds id r) (operation : String) (name : MetricName)
    (fresh : Handle) : requireObtainable id operation name fresh h = .ok () h := by
  obtain ⟨a, found, rfl⟩ := holds.exists_attached
  rw [requireObtainable, Action.bind_of_ok (holds.requireBindings_run _ _),
    Action.bind_of_ok (Holds.getRegistry_run found)]
  split
  · rw [Action.bind_of_ok (Item.requireUnmarked_run (holds.mark?_registry _))]
    exact holds.makeWay_run _ _
  · rfl

/-- A counter is made first, whether it will be bound or not. -/
theorem counter_run (holds : h.Holds id r) (name : MetricName) :
    counter id name h =
      settled id name (r.counter name h.instruments.size) (h.withInstrument (.counter Counter.start)) := by
  have made : addInstrument (.counter Counter.start) h =
    .ok ⟨h.instruments.size, .counter⟩ (h.withInstrument (.counter Counter.start)) := rfl
  have holds := holds.withInstrument (.counter Counter.start)
  obtain ⟨a, found, rfl⟩ := holds.exists_attached
  rw [counter, Action.bind_of_ok made, Action.bind_of_ok (requireObtainable_run holds _ _ _),
    Action.bind_of_ok (Holds.getRegistry_run found), commit_run holds]

/-- A histogram is made first, whether it will be bound or not. -/
theorem histogram_run (holds : h.Holds id r) (name : MetricName) (biased : Value) :
    histogram id name biased h =
      settled id name (r.histogram name h.instruments.size)
        (h.withInstrument (.histogram (.standard biased))) := by
  have made : addInstrument (.histogram (.standard biased)) h =
    .ok ⟨h.instruments.size, .histogram⟩ (h.withInstrument (.histogram (.standard biased))) := rfl
  have holds := holds.withInstrument (.histogram (.standard biased))
  obtain ⟨a, found, rfl⟩ := holds.exists_attached
  rw [histogram, Action.bind_of_ok made, Action.bind_of_ok (requireObtainable_run holds _ _ _),
    Action.bind_of_ok (Holds.getRegistry_run found), commit_run holds]

/-- Removing does what the registry does. -/
theorem remove_eq (holds : h.Holds id r) (name : MetricName) :
    remove id name h =
      Action.ofExcept ((r.remove name).2.mapError fun e => .missingFamily e.family)
        (h.rebind id (r.remove name).1 []) := by
  obtain ⟨a, found, rfl⟩ := holds.exists_attached
  rw [remove, Action.bind_of_ok (holds.requireBindings_run _ _),
    Action.bind_of_ok (Holds.getRegistry_run found), Action.bind_of_ok (Action.get_run h),
    holds.unaltered]
  dsimp only
  rw [if_neg Bool.false_ne_true, Action.bind_of_ok (setRegistry_run found _)]

/-- Where the family table is exact, a removal always tells whether the name was bound. -/
theorem remove_run (holds : h.Holds id r) (exact : r.Exact) (name : MetricName) :
    remove id name h = .ok (r.contains name) (h.rebind id (r.remove name).1 []) := by
  rw [remove_eq holds, exact.remove_answer]
  rfl

end Host

end StorageMetrics
