import StorageMetrics.Proofs.Host.Polls
import StorageMetrics.Proofs.Host.Serving

/-
  Gauges of surfaces. Where none of its names is bound before, a build binds instruments of its own
  under all of them, step by step (`Host.Extends`). So each gauge of the surface asks the query of
  its own level or size, and counts its failures under its own name
  (`Host.gauges_of_buildSurface`).
-/

namespace StorageMetrics

open StorageMetrics.Action

/-- None of these names is bound, and none is among them twice. -/
structure Registry.Free (r : Registry) (names : List MetricName) : Prop where
  nodup : names.Nodup
  unbound : ∀ name ∈ names, r.bindings.get? name = none

namespace Registry.Free

variable {r : Registry} {names others : List MetricName}

theorem left (free : r.Free (names ++ others)) : r.Free names where
  nodup := (List.nodup_append.mp free.nodup).1
  unbound name mem := free.unbound name (List.mem_append_left _ mem)

theorem head {name : MetricName} (free : r.Free ([name] ++ others)) :
    r.bindings.get? name = none := free.unbound name List.mem_cons_self

end Registry.Free

/-- The gauges of a surface by their names, with the query of each and what engines tell to it. -/
inductive Surface.HasGauge (s : Surface) (request : SurfaceRequest) :
    MetricName → Query → (Engine → Except EngineError Value) → Handle → Prop where
  | level {level : Nat} {hd : Handle} (here : s.levels[level]? = some hd) :
      HasGauge s request (request.scope.name (Surface.levelLabel level))
        (.levelCount request.engine request.tableId level) (·.levelCount request.tableId level) hd
  | pending : HasGauge s request (request.scope.name Surface.pendingLabel)
      (.pendingBytes request.engine request.tableId) (·.pendingBytes request.tableId) s.pending
  | live : HasGauge s request (request.scope.name Surface.liveLabel)
      (.liveBytes request.engine request.tableId) (·.liveBytes request.tableId) s.live

namespace Host

/-- The instrument that is bound under the name is a gauge on this query. Where that fails it gives
zero and counts on this counter, under the name. -/
structure Measures (failures : Nat) (h : Host) (r : Registry) (name : MetricName) (query : Query)
    (hd : Handle) : Prop where
  bound : r.bindings.get? name = some hd
  installed : ∃ message, h.instruments[hd.id]? =
    some (.gauge query (some ⟨.int 0, message, .str name.flat, some failures⟩))

/-- From the one registry to the other none but these names were bound, and nothing else was done to
it or to any instrument. -/
structure Extends (id target failures : Nat) (names : List MetricName) (h : Host) (r : Registry)
    (h' : Host) (s : Registry) : Prop where
  undisturbed : h'.Undisturbed id target failures s
  unbound : ∀ name, name ∉ names → r.bindings.get? name = none → s.bindings.get? name = none
  kept : ∀ name hd, r.bindings.get? name = some hd → s.bindings.get? name = some hd
  instruments : ∀ (k : Nat) (i : Instrument),
    h.instruments[k]? = some i → h'.instruments[k]? = some i

variable {h h' g : Host} {id target failures : Nat} {r s : Registry} {names : List MetricName}

theorem Undisturbed.of_groundwork (before : h.Undisturbed id target failures r)
    (same : g.groundwork = h.groundwork) : g.Undisturbed id target failures r :=
  before.congr (show g.groundwork.setting = h.groundwork.setting by rw [same])

namespace Extends

theorem refl (before : h.Undisturbed id target failures r) :
    Extends id target failures [] h r h r where
  undisturbed := before
  unbound _ _ free := free
  kept _ _ bound := bound
  instruments _ _ found := found

/-- What does not touch the groundwork extends it by nothing. -/
theorem of_groundwork (before : h.Undisturbed id target failures r)
    (same : g.groundwork = h.groundwork) : Extends id target failures [] h r g r where
  undisturbed := before.of_groundwork same
  unbound _ _ free := free
  kept _ _ bound := bound
  instruments k i found := by
    rw [show g.instruments = h.instruments from congrArg (·.instruments) same]
    exact found

theorem trans {more : List MetricName} {h'' : Host} {t : Registry}
    (first : Extends id target failures names h r h' s)
    (rest : Extends id target failures more h' s h'' t) :
    Extends id target failures (names ++ more) h r h'' t where
  undisturbed := rest.undisturbed
  unbound name absent free := by
    obtain ⟨before, after⟩ := not_or.mp (mt List.mem_append.mpr absent)
    exact rest.unbound name after (first.unbound name before free)
  kept name hd bound := rest.kept name hd (first.kept name hd bound)
  instruments k i found := rest.instruments k i (first.instruments k i found)

/-- The names that are left to bind stay free. -/
theorem free (extended : Extends id target failures names h r h' s) {others : List MetricName}
    (free : r.Free (names ++ others)) : s.Free others where
  nodup := (List.nodup_append.mp free.nodup).2.1
  unbound name mem := by
    refine extended.unbound name (fun own => ?_) (free.unbound name (List.mem_append_right _ mem))
    exact (List.nodup_append.mp free.nodup).2.2 name own name mem rfl

theorem measures (extended : Extends id target failures names h r h' s) {name : MetricName}
    {query : Query} {hd : Handle} (measures : Measures failures h r name query hd) :
    Measures failures h' s name query hd where
  bound := extended.kept _ _ measures.bound
  installed := by
    obtain ⟨message, found⟩ := measures.installed
    exact ⟨message, extended.instruments _ _ found⟩

end Extends

/-! ## Single instruments -/

theorem Undisturbed.rebind (before : h.Undisturbed id target failures r) (s : Registry)
    (reports : Journal) : (h.rebind id s reports).Undisturbed id target failures s where
  found := by
    unfold Host.rebind
    rw [Array.getElem?_modify, if_pos rfl, before.found]
    rfl
  intact := before.intact
  tidy := before.tidy
  attached := before.attached
  counts := before.counts

theorem Undisturbed.withInstrument (before : h.Undisturbed id target failures r) (i : Instrument) :
    (h.withInstrument i).Undisturbed id target failures r :=
  ⟨before.found, before.intact, before.tidy, before.attached, before.counts⟩

/-- A new instrument that is offered for a free name, and accepted, is the one that is bound. -/
theorem extends_of_settled (before : h.Undisturbed id target failures r) {name : MetricName}
    (free : r.bindings.get? name = none) {i : Instrument} {hd : Handle}
    (ran : settled id name (r.register name (.instrument ⟨h.instruments.size, i.kind⟩))
      (h.withInstrument i) = .ok hd g) :
    ∃ s, Extends id target failures [name] h r g s ∧ s.bindings.get? name = some hd ∧
      g.instruments[hd.id]? = some i := by
  cases decided : r.register name (.instrument ⟨h.instruments.size, i.kind⟩) with
  | error e =>
    rw [decided] at ran
    cases ran
  | ok reg =>
    rw [decided] at ran
    obtain ⟨held, bound, -⟩ | ⟨offered, same, -, -, rfl⟩ := Registry.register_cases decided
    · rw [free] at bound
      cases bound
    · cases same
      cases ran
      refine ⟨_, ⟨(before.withInstrument i).rebind _ _, fun other absent unbound => ?_,
        fun other hd bound => ?_, fun k j found => ?_⟩, ?_, Array.getElem?_push_size⟩
      · have apart : name ≠ other := fun same => absent (List.mem_singleton.mpr same.symm)
        rw [Registry.get?_bindings_bind, if_neg apart]
        exact unbound
      · rw [Registry.get?_bindings_bind, if_neg]
        · exact bound
        · rintro rfl
          rw [free] at bound
          cases bound
      · obtain ⟨inside, here⟩ := Array.getElem?_eq_some_iff.mp found
        show (h.instruments.push i)[k]? = some j
        rw [Array.getElem?_push_lt inside, here]
      · rw [Registry.get?_bindings_bind, if_pos rfl]

theorem extends_of_registerNew (before : h.Undisturbed id target failures r) {name : MetricName}
    (free : r.bindings.get? name = none) {i : Instrument} {hd : Handle}
    (ran : (do register id name (.instrument (← addInstrument i)) : Action Handle) h = .ok hd g) :
    ∃ s, Extends id target failures [name] h r g s ∧ s.bindings.get? name = some hd ∧
      g.instruments[hd.id]? = some i := by
  have made : addInstrument i h = .ok ⟨h.instruments.size, i.kind⟩ (h.withInstrument i) := rfl
  rw [bind_of_ok made, register_run (before.holds.withInstrument i)] at ran
  exact extends_of_settled before free ran

theorem extends_of_counter (before : h.Undisturbed id target failures r) {name : MetricName}
    (free : r.bindings.get? name = none) {hd : Handle} (ran : counter id name h = .ok hd g) :
    ∃ s, Extends id target failures [name] h r g s := by
  rw [counter_run before.holds, Registry.counter, Registry.obtain_of_unbound free] at ran
  obtain ⟨s, extended, -⟩ := extends_of_settled (i := .counter Counter.start) before free ran
  exact ⟨s, extended⟩

theorem extends_of_histogram (before : h.Undisturbed id target failures r) {name : MetricName}
    (free : r.bindings.get? name = none) {biased : Value} {hd : Handle}
    (ran : histogram id name biased h = .ok hd g) :
    ∃ s, Extends id target failures [name] h r g s := by
  rw [histogram_run before.holds, Registry.histogram, Registry.obtain_of_unbound free] at ran
  obtain ⟨s, extended, -⟩ := extends_of_settled (i := .histogram (.standard biased)) before free ran
  exact ⟨s, extended⟩

/-- A gauge counts its failures on the counter of its registry, under its own name. -/
theorem extends_of_registerGauge (before : h.Undisturbed id target failures r) {name : MetricName}
    (free : r.bindings.get? name = none) {query : Query} {message : String} {hd : Handle}
    (ran : registerGauge id name query message h = .ok hd g) :
    ∃ s, Extends id target failures [name] h r g s ∧ Measures failures g s name query hd := by
  have counter : failuresOf h id = some failures := by
    rw [failuresOf, before.found, before.intact.mark? rfl]
  rw [registerGauge, bind_of_ok (get_run h), counter] at ran
  obtain ⟨s, extended, bound, installed⟩ := extends_of_registerNew before free ran
  exact ⟨s, extended, bound, _, installed⟩

/-! ## Shards and levels -/

theorem extends_of_registerCatalog {scope : TableScope} {shard : Nat} {statistics : Item}
    {entries : List CatalogEntry} (before : h.Undisturbed id target failures r)
    (free : r.Free (entries.map fun e => scope.shardName e.label shard))
    (ran : registerCatalog id scope shard statistics entries h = .ok () g) :
    ∃ s, Extends id target failures
      (entries.map fun e => scope.shardName e.label shard) h r g s := by
  induction entries generalizing h r with
  | nil =>
    cases ran
    exact ⟨r, .refl before⟩
  | cons entry rest ih =>
    rw [registerCatalog, ← bind_assoc] at ran
    obtain ⟨hd, h₁, made, ran⟩ := ok_of_bind ran
    obtain ⟨s, extended, -⟩ := extends_of_registerNew before (Registry.Free.head free) made
    obtain ⟨t, more⟩ := ih extended.undisturbed (extended.free free) ran
    exact ⟨t, extended.trans more⟩

theorem extends_of_registerShards {scope : TableScope} {shard : Nat} {statistics : List Item}
    (before : h.Undisturbed id target failures r)
    (free : r.Free ((List.range' shard statistics.length).flatMap (Surface.shardNames scope)))
    (ran : registerShards id scope shard statistics h = .ok () g) :
    ∃ s, Extends id target failures
      ((List.range' shard statistics.length).flatMap (Surface.shardNames scope)) h r g s := by
  induction statistics generalizing h r shard with
  | nil =>
    cases ran
    exact ⟨r, .refl before⟩
  | cons source rest ih =>
    rw [registerShards] at ran
    obtain ⟨_, h₁, catalog, ran⟩ := ok_of_bind ran
    rw [List.length_cons, List.range'_succ, List.flatMap_cons] at free ⊢
    have names : Catalog.entries.map (fun e => scope.shardName e.label shard) =
        Surface.shardNames scope shard := by
      rw [Surface.shardNames, Catalog.labels, List.map_map]
      rfl
    obtain ⟨s, extended⟩ := extends_of_registerCatalog before (names ▸ free.left) catalog
    rw [names] at extended
    obtain ⟨t, more⟩ := ih extended.undisturbed (extended.free free) ran
    exact ⟨t, extended.trans more⟩

/-- Each level gets a gauge on the query of that very level. -/
theorem extends_of_registerLevels {request : SurfaceRequest} {levels : List Nat}
    {handles : List Handle} (before : h.Undisturbed id target failures r)
    (free : r.Free (levels.map fun level => request.scope.name (Surface.levelLabel level)))
    (ran : registerLevels request id levels h = .ok handles g) :
    ∃ s, Extends id target failures
        (levels.map fun level => request.scope.name (Surface.levelLabel level)) h r g s ∧
      List.Forall₂ (fun level hd => Measures failures g s
        (request.scope.name (Surface.levelLabel level))
        (.levelCount request.engine request.tableId level) hd) levels handles := by
  induction levels generalizing h r handles with
  | nil =>
    cases ran
    exact ⟨r, .refl before, .nil⟩
  | cons level rest ih =>
    rw [registerLevels] at ran
    obtain ⟨hd, h₁, made, ran⟩ := ok_of_bind ran
    obtain ⟨others, h₂, ranRest, ran⟩ := ok_of_bind ran
    cases ran
    obtain ⟨s, extended, measures⟩ := extends_of_registerGauge before (Registry.Free.head free) made
    obtain ⟨t, more, measuresRest⟩ := ih extended.undisturbed (extended.free free) ranRest
    exact ⟨t, extended.trans more, .cons (more.measures measures) measuresRest⟩

/-! ## Whole surfaces -/

/-- A surface that was built where none of its names was bound has a gauge of its own for each level
of the settings, and one for either size. -/
theorem gauges_of_buildSurface {request : SurfaceRequest} {k : Nat} {surface : Surface}
    (before : h.Undisturbed id target failures r) (registry : request.registry = .registry id)
    (built : buildSurface request h = .ok k g) (found : g.surfaces[k]? = some surface)
    (fresh : ∀ name ∈ surface.identities, name ∉ r.names) :
    request.settings.bind levelCount = .ok surface.levels.length ∧
      ∃ s, g.Undisturbed id target failures s ∧ ∀ name query told hd,
        surface.HasGauge request name query told hd → Measures failures g s name query hd := by
  rw [buildSurface, bind_of_ok (surfaceRegistry_run registry)] at built
  obtain ⟨_, h₁, shards, built⟩ := ok_of_bind built
  obtain ⟨ingestTime, h₂, ran₂, built⟩ := ok_of_bind built
  obtain ⟨ingestWait, h₃, ran₃, built⟩ := ok_of_bind built
  obtain ⟨count, h₃', counted, built⟩ := ok_of_bind built
  obtain ⟨levels, h₄, ran₄, built⟩ := ok_of_bind built
  obtain ⟨pending, h₅, ran₅, built⟩ := ok_of_bind built
  obtain ⟨live, h₆, ran₆, built⟩ := ok_of_bind built
  obtain ⟨iterMove, h₇, ran₇, built⟩ := ok_of_bind built
  obtain ⟨iterSeek, h₈, ran₈, built⟩ := ok_of_bind built
  obtain ⟨iterNew, h₉, ran₉, built⟩ := ok_of_bind built
  obtain ⟨_, h₁₀, told, built⟩ := ok_of_bind built
  have same : g.groundwork = h₉.groundwork := by
    cases told
    cases built
    rfl
  have settings := ok_of_ofExcept counted
  rw [settings] at counted
  cases counted
  cases told
  cases built
  obtain rfl := Option.some.inj (found.symm.trans Array.getElem?_push_size)
  have free : r.Free (Surface.nameList request.scope request.statistics.length count) := by
    refine ⟨Surface.nameList_nodup _ _ _, fun name mem => ?_⟩
    refine OrderedMap.get?_eq_none_iff.mpr (fresh name ?_)
    rw [Surface.identities_of_withdrawn_nil rfl]
    exact mem
  rw [nameList_eq] at free
  obtain ⟨r₁, shards⟩ := extends_of_registerShards before free.left shards
  have free := shards.free free
  obtain ⟨r₂, time⟩ := extends_of_histogram shards.undisturbed free.head ran₂
  have free := time.free free
  obtain ⟨r₃, wait⟩ := extends_of_histogram time.undisturbed free.head ran₃
  have free := wait.free free
  obtain ⟨r₄, leveled, measures⟩ := extends_of_registerLevels wait.undisturbed free.left ran₄
  have free := leveled.free free
  obtain ⟨r₅, sized, pendingMeasures⟩ := extends_of_registerGauge leveled.undisturbed free.head ran₅
  have free := sized.free free
  obtain ⟨r₆, resized, liveMeasures⟩ := extends_of_registerGauge sized.undisturbed free.head ran₆
  have free := resized.free free
  obtain ⟨r₇, moved⟩ := extends_of_counter resized.undisturbed free.head ran₇
  have free := moved.free free
  obtain ⟨r₈, sought⟩ := extends_of_counter moved.undisturbed free.head ran₈
  have free := sought.free free
  have last := free.unbound _ List.mem_cons_self
  obtain ⟨r₉, renewed⟩ := extends_of_counter sought.undisturbed last ran₉
  have done := Extends.of_groundwork renewed.undisturbed same
  have after₆ := moved.trans (sought.trans (renewed.trans done))
  have after₅ := resized.trans after₆
  have after₄ := sized.trans after₅
  refine ⟨?_, r₉, done.undisturbed, fun name query told hd gauge => ?_⟩
  · rw [settings, ← measures.length_eq, List.length_range]
  · cases gauge with
    | level here =>
      obtain ⟨inside, rfl⟩ := List.getElem?_eq_some_iff.mp here
      have own := measures.get (by rwa [measures.length_eq]) inside
      rw [List.get_eq_getElem, List.getElem_range] at own
      exact after₄.measures own
    | pending => exact after₅.measures pendingMeasures
    | live => exact after₆.measures liveMeasures

end Host

end StorageMetrics
