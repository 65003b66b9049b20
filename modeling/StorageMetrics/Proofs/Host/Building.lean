import StorageMetrics.Proofs.Host.RegistryCalls
import StorageMetrics.Proofs.Registry.Own

/-
  Building surfaces. Each step of a build binds one more name of an own label or finds
  it bound, so a build as a whole goes through in every registry of own labels. Afterwards the names
  of the surface are bound besides those that were, and the surface has the instruments that are
  bound to them (`buildSurface_run`).
-/

namespace StorageMetrics

open StorageMetrics.Action

namespace Host

/-- The host has this registry under the number, of own labels alone, and there are no marks. -/
structure Uses (h : Host) (id : Nat) (r : Registry) : Prop extends h.Holds id r where
  own : r.Own
  unmarked : h.marks = []

/-- The host without what registrations change. -/
def surroundings (h : Host) : Host :=
  { h with registries := #[], instruments := #[], journal := [], kept := #[] }

/-- From the one registry to the other these names were bound, unless they were before; nothing was
unbound or bound anew, and the surroundings stayed as they were. -/
structure Grows (id : Nat) (names : List MetricName) (h : Host) (r : Registry) (h' : Host)
    (s : Registry) : Prop where
  uses : h'.Uses id s
  names_iff : ∀ name, name ∈ s.names ↔ name ∈ r.names ∨ name ∈ names
  kept : ∀ name hd, r.bindings.get? name = some hd → s.bindings.get? name = some hd
  same : h'.surroundings = h.surroundings

variable {h h' g : Host} {id : Nat} {r s : Registry}

/-! ## Growing -/

theorem Uses.congr (uses : h.Uses id r) (registries : g.registries = h.registries)
    (strays : g.strays = h.strays) (marks : g.marks = h.marks) : g.Uses id r where
  held := by rw [registries, uses.held]
  unaltered := by
    have quiet := uses.unaltered
    unfold isAltered at quiet ⊢
    rwa [strays, marks]
  own := uses.own
  unmarked := by rw [marks, uses.unmarked]

theorem Uses.mark? (uses : h.Uses id r) (item : Item) (name : String) : h.mark? item name = none :=
  mark?_of_marks_nil uses.unmarked item name

theorem Grows.refl (uses : h.Uses id r) : Grows id [] h r h r where
  uses := uses
  names_iff name := by simp
  kept _ _ bound := bound
  same := rfl

theorem Grows.trans {names names' : List MetricName} {h'' : Host} {t : Registry}
    (first : Grows id names h r h' s) (rest : Grows id names' h' s h'' t) :
    Grows id (names ++ names') h r h'' t where
  uses := rest.uses
  names_iff name := by rw [rest.names_iff, first.names_iff, List.mem_append, or_assoc]
  kept name hd bound := rest.kept name hd (first.kept name hd bound)
  same := rest.same.trans first.same

/-- The action gives the instrument under a name, which is bound from now on if it was not. -/
def Binds (t : Action Handle) (id : Nat) (name : MetricName) (h : Host) (r : Registry) : Prop :=
  ∃ bound h' s, t h = .ok bound h' ∧ s.bindings.get? name = some bound ∧ Grows id [name] h r h' s

theorem binds_of_settled (uses : h.Uses id r) {t : Action Handle} {name : MetricName}
    {decided : Except RegistrationError Registration}
    (adds : ∃ reg, decided = .ok reg ∧ r.Adds name reg.bound reg.registry)
    (ran : t g = settled id name decided h) (same : h.surroundings = g.surroundings) :
    Binds t id name g r := by
  obtain ⟨reg, rfl, adds⟩ := adds
  refine ⟨_, _, reg.registry, ran, adds.bound, ?_⟩
  refine ⟨⟨uses.toHolds.rebind _ _, adds.own, uses.unmarked⟩, fun name => ?_, adds.kept, same⟩
  rw [adds.names_iff, List.mem_singleton]

theorem Uses.withInstrument (uses : h.Uses id r) (i : Instrument) :
    (h.withInstrument i).Uses id r :=
  ⟨uses.toHolds.withInstrument i, uses.own, uses.unmarked⟩

/-! ## Single instruments -/

/-- An instrument is made, and offered for a name. -/
theorem registerNew_binds (uses : h.Uses id r) {name : MetricName} (i : Instrument)
    (label : OwnLabel name.name i.kind) :
    Binds (do register id name (.instrument (← addInstrument i))) id name h r := by
  have made : addInstrument i h = .ok ⟨h.instruments.size, i.kind⟩ (h.withInstrument i) := rfl
  have adds := uses.own.register_adds (h := ⟨h.instruments.size, i.kind⟩) label
  refine binds_of_settled (uses.withInstrument i) adds ?_ rfl
  rw [bind_of_ok made]
  exact register_run (uses.toHolds.withInstrument i) name _

theorem registerGauge_binds (uses : h.Uses id r) {name : MetricName}
    (label : OwnLabel name.name .gauge) (query : Query) (message : String) :
    Binds (registerGauge id name query message) id name h r :=
  registerNew_binds uses (.gauge query _) label

theorem counter_binds (uses : h.Uses id r) {name : MetricName}
    (label : OwnLabel name.name .counter) : Binds (counter id name) id name h r :=
  binds_of_settled (uses.withInstrument _) (uses.own.obtain_adds label _)
    (counter_run uses.toHolds name) rfl

theorem histogram_binds (uses : h.Uses id r) {name : MetricName}
    (label : OwnLabel name.name .histogram) (biased : Value) :
    Binds (histogram id name biased) id name h r :=
  binds_of_settled (uses.withInstrument _) (uses.own.obtain_adds label _)
    (histogram_run uses.toHolds name biased) rfl

/-! ## Shards and levels -/

theorem registerCatalog_run (uses : h.Uses id r) (scope : TableScope) (shard : Nat)
    (statistics : Item) {entries : List CatalogEntry} (known : ∀ e ∈ entries, e ∈ Catalog.entries) :
    ∃ h' s, registerCatalog id scope shard statistics entries h = .ok () h' ∧
      Grows id (entries.map fun e => scope.shardName e.label shard) h r h' s := by
  induction entries generalizing h r with
  | nil => exact ⟨h, r, rfl, .refl uses⟩
  | cons entry rest ih =>
    have label : OwnLabel (scope.shardName entry.label shard).name
        (Instrument.ofSource statistics entry.source).kind := by
      rw [Instrument.kind_ofSource]
      exact .catalog (known entry List.mem_cons_self)
    obtain ⟨bound, g, s, ran, -, grows⟩ := registerNew_binds uses _ label
    obtain ⟨h', t, ranRest, growsRest⟩ :=
      ih grows.uses fun e mem => known e (List.mem_cons_of_mem _ mem)
    refine ⟨h', t, ?_, grows.trans growsRest⟩
    rw [registerCatalog, ← bind_assoc, bind_of_ok ran]
    exact ranRest

theorem registerShards_run (uses : h.Uses id r) (scope : TableScope) (shard : Nat)
    (statistics : List Item) :
    ∃ h' s, registerShards id scope shard statistics h = .ok () h' ∧
      Grows id ((List.range' shard statistics.length).flatMap (Surface.shardNames scope)) h r h' s := by
  induction statistics generalizing h r shard with
  | nil => exact ⟨h, r, rfl, .refl uses⟩
  | cons source rest ih =>
    obtain ⟨g, s, ran, grows⟩ :=
      registerCatalog_run uses scope shard source fun (e : CatalogEntry) mem => mem
    obtain ⟨h', t, ranRest, growsRest⟩ := ih grows.uses (shard + 1)
    refine ⟨h', t, ?_, ?_⟩
    · rw [registerShards, bind_of_ok ran]
      exact ranRest
    · have names : Catalog.entries.map (fun e => scope.shardName e.label shard) =
          Surface.shardNames scope shard := by
        rw [Surface.shardNames, Catalog.labels, List.map_map]
        rfl
      rw [names] at grows
      rw [List.length_cons, List.range'_succ, List.flatMap_cons]
      exact grows.trans growsRest

/-- The handles of levels, each bound under the name of its level. -/
theorem registerLevels_run (request : SurfaceRequest) (uses : h.Uses id r) (levels : List Nat) :
    ∃ handles h' s, registerLevels request id levels h = .ok handles h' ∧
      Grows id (levels.map fun level => request.scope.name (Surface.levelLabel level)) h r h' s ∧
      List.Forall₂ (fun level hd =>
        s.bindings.get? (request.scope.name (Surface.levelLabel level)) = some hd) levels handles := by
  induction levels generalizing h r with
  | nil => exact ⟨[], h, r, rfl, .refl uses, .nil⟩
  | cons level rest ih =>
    have label : OwnLabel (request.scope.name (Surface.levelLabel level)).name .gauge := .level level
    obtain ⟨bound, g, s, ran, isBound, grows⟩ :=
      registerGauge_binds uses label (.levelCount request.engine request.tableId level)
        "Failed to get sstable count by level."
    obtain ⟨handles, h', t, ranRest, growsRest, bounds⟩ := ih grows.uses
    refine ⟨bound :: handles, h', t, ?_, grows.trans growsRest, .cons ?_ bounds⟩
    · rw [registerLevels, bind_of_ok ran, bind_of_ok ranRest]
      rfl
    · exact growsRest.kept _ _ isBound

/-! ## Whole surfaces -/

/-- The surface as it was asked for, with all of its names. -/
structure BuiltFor (s : Surface) (request : SurfaceRequest) (id count : Nat) : Prop where
  scope_eq : s.scope = request.scope
  registry_eq : s.registry = id
  names_eq : s.names = Surface.nameList request.scope request.statistics.length count
  withdrawn_eq : s.withdrawn = []
  length_levels : s.levels.length = count

/-- The surface has the instruments that are bound under its names. -/
structure HandlesBound (s : Surface) (r : Registry) : Prop where
  ingestTime : r.bindings.get? (s.scope.name Surface.ingestTimeLabel) = some s.ingestTime
  ingestWait : r.bindings.get? (s.scope.name Surface.ingestWaitLabel) = some s.ingestWait
  levels : ∀ level hd, s.levels[level]? = some hd →
    r.bindings.get? (s.scope.name (Surface.levelLabel level)) = some hd
  pending : r.bindings.get? (s.scope.name Surface.pendingLabel) = some s.pending
  live : r.bindings.get? (s.scope.name Surface.liveLabel) = some s.live
  iterMove : r.bindings.get? (s.scope.name Surface.iterMoveLabel) = some s.iterMove
  iterSeek : r.bindings.get? (s.scope.name Surface.iterSeekLabel) = some s.iterSeek
  iterNew : r.bindings.get? (s.scope.name Surface.iterNewLabel) = some s.iterNew

theorem surfaceRegistry_run {request : SurfaceRequest} (registry : request.registry = .registry id) :
    surfaceRegistry request h = .ok id h := by
  rw [surfaceRegistry, registry]
  rfl

/-- The names of a surface in the order in which it is built. -/
theorem nameList_eq (scope : TableScope) (shards count : Nat) :
    Surface.nameList scope shards count =
      (List.range' 0 shards).flatMap (Surface.shardNames scope) ++
        ([scope.name Surface.ingestTimeLabel] ++ ([scope.name Surface.ingestWaitLabel] ++
          ((List.range count).map (fun level => scope.name (Surface.levelLabel level)) ++
            ([scope.name Surface.pendingLabel] ++ ([scope.name Surface.liveLabel] ++
              ([scope.name Surface.iterMoveLabel] ++ ([scope.name Surface.iterSeekLabel] ++
                [scope.name Surface.iterNewLabel]))))))) := by
  rw [Surface.nameList, Surface.tableLabels, List.range_eq_range' (n := shards)]
  simp [Function.comp_def]

/-- A surface is built in every registry of own labels. -/
theorem buildSurface_run (uses : h.Uses id r) {request : SurfaceRequest} {count : Nat}
    (registry : request.registry = .registry id)
    (settings : request.settings.bind levelCount = .ok count) :
    ∃ s h' t, buildSurface request h = .ok h.surfaces.size h' ∧
      h'.surfaces = h.surfaces.push s ∧ BuiltFor s request id count ∧ HandlesBound s t ∧
      h'.Uses id t ∧
      (∀ name, name ∈ t.names ↔ name ∈ r.names ∨ name ∈ s.names) := by
  have own (label : String) (kind : InstrumentKind) (mem : (label, kind) ∈ plainLabels) :
      OwnLabel (request.scope.name label).name kind := .plain mem
  obtain ⟨h₁, r₁, shards, grows₁⟩ := registerShards_run uses request.scope 0 request.statistics
  obtain ⟨ingestTime, h₂, r₂, ran₂, bound₂, grows₂⟩ := histogram_binds grows₁.uses
    (own Surface.ingestTimeLabel .histogram (by simp [plainLabels])) (.bool true)
  obtain ⟨ingestWait, h₃, r₃, ran₃, bound₃, grows₃⟩ := histogram_binds grows₂.uses
    (own Surface.ingestWaitLabel .histogram (by simp [plainLabels])) (.bool true)
  obtain ⟨levels, h₄, r₄, ran₄, grows₄, bounds⟩ :=
    registerLevels_run request grows₃.uses (List.range count)
  obtain ⟨pending, h₅, r₅, ran₅, bound₅, grows₅⟩ := registerGauge_binds grows₄.uses
    (own Surface.pendingLabel .gauge (by simp [plainLabels]))
    (.pendingBytes request.engine request.tableId) "Failed to get pending compaction bytes"
  obtain ⟨live, h₆, r₆, ran₆, bound₆, grows₆⟩ := registerGauge_binds grows₅.uses
    (own Surface.liveLabel .gauge (by simp [plainLabels]))
    (.liveBytes request.engine request.tableId) "Failed to get live data size"
  obtain ⟨iterMove, h₇, r₇, ran₇, bound₇, grows₇⟩ := counter_binds grows₆.uses
    (own Surface.iterMoveLabel .counter (by simp [plainLabels]))
  obtain ⟨iterSeek, h₈, r₈, ran₈, bound₈, grows₈⟩ := counter_binds grows₇.uses
    (own Surface.iterSeekLabel .counter (by simp [plainLabels]))
  obtain ⟨iterNew, h₉, r₉, ran₉, bound₉, grows₉⟩ := counter_binds grows₈.uses
    (own Surface.iterNewLabel .counter (by simp [plainLabels]))
  -- what is bound at one step stays bound in all later ones
  have after₈ := grows₉
  have after₇ := grows₈.trans after₈
  have after₆ := grows₇.trans after₇
  have after₅ := grows₆.trans after₆
  have after₄ := grows₅.trans after₅
  have after₃ := grows₄.trans after₄
  have after₂ := grows₃.trans after₃
  have whole := grows₁.trans (grows₂.trans after₂)
  rw [← nameList_eq] at whole
  have surfaces : h₉.surfaces = h.surfaces := congrArg (·.surfaces) whole.same
  have counted : levels.length = count := by rw [← bounds.length_eq, List.length_range]
  have levelsBound : ∀ level hd, levels[level]? = some hd →
      r₉.bindings.get? (request.scope.name (Surface.levelLabel level)) = some hd := by
    intro level hd found
    obtain ⟨inside, rfl⟩ := List.getElem?_eq_some_iff.mp found
    have bound := bounds.get (by rwa [bounds.length_eq]) inside
    rw [List.get_eq_getElem, List.getElem_range] at bound
    exact after₄.kept _ _ bound
  obtain ⟨surface, made⟩ : ∃ s : Surface, s = ⟨request.scope, request.tableId, request.engine, id,
    request.statistics.length, Surface.nameList request.scope request.statistics.length count,
    ingestTime, ingestWait, levels, pending, live, iterMove, iterSeek, iterNew, []⟩ := ⟨_, rfl⟩
  have built : BuiltFor surface request id count := by
    rw [made]
    exact ⟨rfl, rfl, rfl, rfl, counted⟩
  have handles : HandlesBound surface r₉ := by
    rw [made]
    exact ⟨after₂.kept _ _ bound₂, after₃.kept _ _ bound₃, levelsBound, after₅.kept _ _ bound₅,
      after₆.kept _ _ bound₆, after₇.kept _ _ bound₇, after₈.kept _ _ bound₈, bound₉⟩
  have counting : Action.ofExcept (request.settings.bind levelCount) h₃ = .ok count h₃ := by
    rw [settings]
    rfl
  refine ⟨surface, { h₉ with
      journal := h₉.journal ++ [registeredEntry request surface.names.length]
      surfaces := h₉.surfaces.push surface }, r₉, ?_, ?_, built, handles,
    whole.uses.congr rfl rfl rfl, ?_⟩
  · rw [buildSurface, bind_of_ok (surfaceRegistry_run registry), bind_of_ok shards, bind_of_ok ran₂,
      bind_of_ok ran₃, bind_of_ok counting, bind_of_ok ran₄, bind_of_ok ran₅, bind_of_ok ran₆,
      bind_of_ok ran₇, bind_of_ok ran₈, bind_of_ok ran₉, ← surfaces, made]
    rfl
  · rw [surfaces]
  · rw [built.names_eq]
    exact whole.names_iff

end Host

end StorageMetrics
