import StorageMetrics.Proofs.Host.Interrupted
import StorageMetrics.Proofs.Host.Separation
import StorageMetrics.Proofs.Host.Scraping
import StorageMetrics.Proofs.Surface.Shards

/-
  The names that a surface tells. A build puts no marks, since none of its steps does
  (`marks_after_buildSurface`), so the new surface tells the names that it was built with, and for the
  number of a shard those of that shard. It got to its end only by way of each of these names, so all
  of them are bound (`built_surface_tells_its_names`).
-/

namespace StorageMetrics

open StorageMetrics.Action

namespace Host

variable {h h' : Host} {id k : Nat} {r s : Registry}

/-! ## Builds put no marks -/

/-- These are the marks, and the registry is a reachable one that nobody meddled with. -/
def Marked (id : Nat) (marks : List Mark) (h : Host) : Prop :=
  h.marks = marks ∧ ∃ r, h.Holds id r ∧ r.Reachable

variable {marks : List Mark}

/-- No call of a registry puts a mark. -/
theorem call_marked (call : RegistryCall) : Preserves (Marked id marks) (call.run id) := by
  rintro h ⟨same, r, holds, reachable⟩
  obtain ⟨s, reports, ran, reachable', -⟩ := call.after_rebind holds reachable
  have made : (call.making h).marks = h.marks := by cases call <;> rfl
  rw [ran]
  exact ⟨made.trans same, s, (call.making_holds holds).rebind s reports, reachable'⟩

theorem register_marked (name : MetricName) (offer : Offer) :
    Preserves (Marked id marks) (register id name offer) := by
  intro h marked
  rw [← after_discard]
  exact call_marked (.register name offer) h marked

theorem counter_marked (name : MetricName) : Preserves (Marked id marks) (counter id name) := by
  intro h marked
  rw [← after_discard]
  exact call_marked (.counter name) h marked

theorem histogram_marked (name : MetricName) (biased : Value) :
    Preserves (Marked id marks) (histogram id name biased) := by
  intro h marked
  rw [← after_discard]
  exact call_marked (.histogram name biased) h marked

theorem addInstrument_marked (i : Instrument) : Preserves (Marked id marks) (addInstrument i) := by
  rintro h ⟨same, r, holds, reachable⟩
  exact ⟨same, r, holds.withInstrument i, reachable⟩

theorem report_marked (e : JournalEntry) : Preserves (Marked id marks) (Action.report e) := by
  rintro h ⟨same, r, holds, reachable⟩
  exact ⟨same, r, ⟨holds.held, holds.unaltered⟩, reachable⟩

theorem addSurface_marked (s : Surface) : Preserves (Marked id marks) (addSurface s) := by
  rintro h ⟨same, r, holds, reachable⟩
  exact ⟨same, r, ⟨holds.held, holds.unaltered⟩, reachable⟩

theorem registerGauge_marked (name : MetricName) (query : Query) (message : String) :
    Preserves (Marked id marks) (registerGauge id name query message) := by
  unfold registerGauge
  exact .get fun _ => .bind (addInstrument_marked _) fun _ => register_marked _ _

theorem registerCatalog_marked (scope : TableScope) (shard : Nat) (statistics : Item)
    (entries : List CatalogEntry) :
    Preserves (Marked id marks) (registerCatalog id scope shard statistics entries) := by
  induction entries with
  | nil => exact .pure ()
  | cons entry rest ih =>
    unfold registerCatalog
    exact .bind (addInstrument_marked _) fun _ => .bind (register_marked _ _) fun _ => ih

theorem registerShards_marked (scope : TableScope) (shard : Nat) (statistics : List Item) :
    Preserves (Marked id marks) (registerShards id scope shard statistics) := by
  induction statistics generalizing shard with
  | nil => exact .pure ()
  | cons source rest ih =>
    unfold registerShards
    exact .bind (registerCatalog_marked _ _ _ _) fun _ => ih (shard + 1)

theorem registerLevels_marked (request : SurfaceRequest) (levels : List Nat) :
    Preserves (Marked id marks) (registerLevels request id levels) := by
  induction levels with
  | nil => exact .pure []
  | cons level rest ih =>
    unfold registerLevels
    exact .bind (registerGauge_marked _ _ _) fun _ => .bind ih fun _ => .pure _

/-- What no step of a build does, a build does not. -/
theorem buildSurface_marked {request : SurfaceRequest} (registry : request.registry = .registry id) :
    Preserves (Marked id marks) (buildSurface request) := by
  have found : surfaceRegistry request = pure id := by
    unfold surfaceRegistry
    rw [registry]
    rfl
  unfold buildSurface
  rw [found, pure_bind]
  refine .bind (registerShards_marked _ _ _) fun _ => .bind (histogram_marked _ _) fun _ =>
    .bind (histogram_marked _ _) fun _ => .bind (.ofExcept _) fun _ => ?_
  refine .bind (registerLevels_marked _ _) fun _ => .bind (registerGauge_marked _ _ _) fun _ =>
    .bind (registerGauge_marked _ _ _) fun _ => ?_
  refine .bind (counter_marked _) fun _ => .bind (counter_marked _) fun _ =>
    .bind (counter_marked _) fun _ => ?_
  exact .bind (report_marked _) fun _ => addSurface_marked _

theorem marks_after_buildSurface (holds : h.Holds id r) (reachable : r.Reachable)
    {request : SurfaceRequest} (registry : request.registry = .registry id)
    (ran : buildSurface request h = .ok k h') : h'.marks = h.marks := by
  have marked := buildSurface_marked registry h ⟨rfl, r, holds, reachable⟩
  rw [after_of_ok ran] at marked
  exact marked.1

/-! ## What a surface tells -/

section Telling

variable {surface : Surface} (intact : h.Intact) (found : h.surfaces[k]? = some surface)

include intact found

/-- A surface whose parts are its own tells the names that are left to it. -/
theorem namesOf_run : namesOf k h = .ok surface.identities h := by
  have own : (Item.surface k).mark? "_identities" h = .ok none h := Item.mark?_run (intact.mark? rfl _)
  unfold namesOf
  rw [bind_of_ok own]
  dsimp only
  rw [bind_of_ok (getSurface_run found)]
  rfl

omit found in
theorem scopeWord_run (part own : String) : scopeWord k part own h = .ok own h := by
  unfold scopeWord
  rw [bind_of_ok (Item.markedValue?_run (intact.mark? rfl _))]
  rfl

theorem shardNamesOf_run (shard : Value) :
    shardNamesOf k shard h = .ok (surface.shardIdentities shard) h := by
  unfold shardNamesOf
  rw [bind_of_ok (Item.requireUnmarked_run (intact.mark? rfl _)),
    bind_of_ok (requireOwn_run _ (intact.mark? rfl _)), bind_of_ok (getSurface_run found),
    bind_of_ok (scopeWord_run intact _ _), bind_of_ok (scopeWord_run intact _ _),
    bind_of_ok (namesOf_run intact found)]
  rfl

end Telling

theorem BuiltFor.shardIdentities_eq {surface : Surface} {request : SurfaceRequest} {count : Nat}
    (built : BuiltFor surface request id count) (i : Int) :
    surface.shardIdentities (.int i) = if 0 ≤ i ∧ i < request.statistics.length then
      Surface.shardNames request.scope i.toNat else [] := by
  unfold Surface.shardIdentities
  rw [built.scope_eq, built.identities_eq, Surface.filter_isInShard_nameList]

end Host

/-! ## What a surface has bound -/

/-- All names of the list are bound at the end. -/
theorem Registry.ExtendedBy.mem_names {r s : Registry} {made : Nat} {names : List MetricName}
    (extended : r.ExtendedBy made names s) {name : MetricName} (mem : name ∈ names) :
    name ∈ s.names := by
  obtain ⟨new, entries, wanted, -⟩ := extended.entries
  have all : s.names = r.names ++ new.map (·.1) := by
    show s.bindings.entries.map (·.1) = _
    rw [entries, List.map_append]
    rfl
  rw [all, List.mem_append, wanted, List.mem_filter]
  by_cases bound : name ∈ r.names
  · exact Or.inl bound
  · exact Or.inr ⟨mem, decide_eq_true bound⟩

namespace Host

variable {h h' : Host} {id k : Nat} {r : Registry}

/-- A build that goes through binds all names of its surface. -/
theorem bound_of_buildSurface (holds : h.Holds id r) (reachable : r.Reachable)
    {request : SurfaceRequest} (registry : request.registry = .registry id)
    (ran : buildSurface request h = .ok k h') {levels : Nat}
    (given : request.settings.bind levelCount = .ok levels) :
    ∃ s, h'.Holds id s ∧
      ∀ name ∈ Surface.nameList request.scope request.statistics.length levels, name ∈ s.names := by
  have ended := goesFor_buildSurface registry h r ⟨holds, reachable, Nat.le_refl _⟩
  rw [ran] at ended
  cases ended with
  | @through _ _ s ready follows _ _ =>
    refine ⟨s, ready.toHolds, fun name mem => ?_⟩
    have wanted : name ∈ request.wanted.map Wanted.name := by
      unfold SurfaceRequest.wanted
      rw [given]
      dsimp only
      rwa [Surface.name_wanted]
    exact (follows.extendedBy request.nodup_wanted ready.reachable.exact).mem_names wanted

/-- A surface that was built in a registry, of whatever table and with whatever other bindings, tells
its names in order: those of the shards, each as the shard of that number tells them by the catalog,
and then those of the table as a whole. No name comes twice, a number that is none of a shard has no
names, and every one of the names is bound in the registry. -/
theorem built_surface_tells_its_names (h : Host) (id : Nat) (r : Registry) (holds : h.Holds id r)
    (reachable : r.Reachable) (intact : h.Intact) (request : SurfaceRequest)
    (registry : request.registry = .registry id) {k : Nat} {h' : Host}
    (ran : buildSurface request h = .ok k h') :
    ∃ (levels : Nat) (names : List MetricName) (ofShard : Int → List MetricName),
      request.settings.bind levelCount = .ok levels ∧ namesOf k h' = .ok names h' ∧
      (∀ i : Int, shardNamesOf k (.int i) h' = .ok (ofShard i) h') ∧
      names.length = 43 * request.statistics.length + levels + 7 ∧ names.Nodup ∧
      names = (List.range request.statistics.length).flatMap (fun n : Nat => ofShard n) ++
        (["IngestTime", "IngestWaitTime"] ++
          (List.range levels).map (fun n => "SSTableCountPerLevel." ++ toString n) ++
          ["PendingCompactionBytes", "LiveDataSize", "RocksIterMove", "RocksIterSeek",
            "RocksIterNew"]).map request.scope.name ∧
      (∀ n < request.statistics.length,
        ofShard n = Catalog.labels.map (request.scope.shardName · n)) ∧
      (∀ i : Int, ¬(0 ≤ i ∧ i < request.statistics.length) → ofShard i = []) ∧
      ∀ name ∈ names, isBound (.registry id) name h' = .ok true h' := by
  obtain ⟨surface, id', levels, given, found, built⟩ := counted_of_buildSurface ran
  obtain ⟨s, holds', bound⟩ := bound_of_buildSurface holds reachable registry ran given
  have intact' : h'.Intact := by
    unfold Intact
    rw [marks_after_buildSurface holds reachable registry ran]
    exact intact
  have shards : ∀ n < request.statistics.length,
      surface.shardIdentities (.int n) = Catalog.labels.map (request.scope.shardName · n) := by
    intro n inside
    rw [built.shardIdentities_eq, if_pos (by omega)]
    rfl
  refine ⟨levels, surface.identities, fun i => surface.shardIdentities (.int i), given,
    namesOf_run intact' found, fun i => shardNamesOf_run intact' found _, ?_, ?_, ?_, shards, ?_, ?_⟩
  · rw [built.identities_eq, Surface.length_nameList]
  · rw [built.identities_eq]
    exact Surface.nameList_nodup _ _ _
  · rw [built.identities_eq, Surface.nameList]
    refine congrArg₂ (· ++ ·) (List.flatMap_congr fun n mem => ?_) rfl
    exact (shards n (List.mem_range.mp mem)).symm
  · intro i outside
    dsimp only
    rw [built.shardIdentities_eq, if_neg outside]
  · intro name mem
    rw [built.identities_eq] at mem
    have held : s.contains name = true := OrderedMap.contains_iff.mpr (bound name mem)
    rw [isBound_run holds', held]

/-- The surface of two shards of a table that is called like the first shard of another. -/
def underscoredShards : SurfaceRequest :=
  { oneShard underscored with statistics := [.statistics 0, .statistics 1] }

theorem built_surface_tells_its_names_underscored :
    ∃ r, furnished.Holds 0 r ∧ r.Reachable ∧ furnished.Intact ∧
      underscoredShards.registry = .registry 0 ∧
      ∃ h' names, buildSurface underscoredShards furnished = .ok 0 h' ∧
        namesOf 0 h' = .ok names h' ∧ names.length = 43 * 2 + 7 + 7 ∧ names.Nodup ∧
        shardNamesOf 0 (.int (-1)) h' = .ok [] h' ∧
        shardNamesOf 0 (.int 1) h' = .ok (Catalog.labels.map (underscored.shardName · 1)) h' ∧
        ∀ name ∈ names, isBound (.registry 0) name h' = .ok true h' := by
  have stands := furnished_stands
  have intact := intact_of_unmarked stands.unmarked
  have reachable := Registry.Reachable.empty (.str "db")
  have registry : underscoredShards.registry = .registry 0 := rfl
  have counted : underscoredShards.settings.bind levelCount = .ok 7 := rfl
  obtain ⟨s, h', t, ran, -⟩ := build_first registry counted
  obtain ⟨levels, names, ofShard, given, told, shards, length, nodup, -, known, none_, bound⟩ :=
    built_surface_tells_its_names furnished 0 _ stands.holds reachable intact underscoredShards
      registry ran
  cases counted.symm.trans given
  refine ⟨_, stands.holds, reachable, intact, registry, h', names, ran, told, length, nodup, ?_, ?_,
    bound⟩
  · rw [shards, none_ (-1) (by decide)]
  · rw [shards]
    exact congrArg (EStateM.Result.ok · h') (known 1 (by decide))

end Host

end StorageMetrics
