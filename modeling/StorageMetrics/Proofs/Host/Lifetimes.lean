import StorageMetrics.Proofs.Host.Releasing
import StorageMetrics.Proofs.Host.Wiring
import StorageMetrics.Proofs.Surface.Names

/-
  Registries in use. A registry that starts empty and is used for surfaces, their releases, gauges of
  throughput and contexts alone holds own labels only, in whatever order it is used and whatever the
  tables share. So each further use goes through, but for a context that has to make a tracker over
  a window beyond the floats (`uses_go_through`).
-/

namespace StorageMetrics

open StorageMetrics.Action

namespace Host

/-- The registry started empty and was then used for nothing but these surfaces, their releases,
gauges of throughput and contexts. -/
inductive Used (id : Nat) : Host → List Nat → Prop where
  | empty {h : Host} {exportName : Value} (holds : h.Holds id { exportName := exportName })
      (unmarked : h.marks = []) : Used id h []
  | build {h h' : Host} {built : List Nat} {request : SurfaceRequest} {settings : Settings}
      {levels k : Nat} (used : Used id h built) (registry : request.registry = .registry id)
      (given : request.settings = .ok settings) (usable : UsableSettings settings levels)
      (ran : buildSurface request h = .ok k h') : Used id h' (k :: built)
  | release {h : Host} {built : List Nat} {k : Nat} (used : Used id h built) (mem : k ∈ built) :
      Used id ((releaseSurface k).after h) built
  | throughput {h : Host} {built : List Nat} {flow : Item} (used : Used id h built)
      (source : h.IsSource flow) : Used id ((registerThroughput (.registry id) flow).after h) built
  | context {h : Host} {built : List Nat} {request : ContextRequest} {levels : Nat}
      (used : Used id h built) (registry : request.registry = some (.registry id))
      (usable : UsableSettings (request.settings.getD Settings.standard) levels)
      (source : ∀ flow, request.flow = some flow → h.IsSource flow) :
      Used id ((createContext request).after h) built
  /-- Whatever else the process does, as long as it leaves the registry and its surfaces alone. -/
  | elsewhere {h h' : Host} {built : List Nat} (used : Used id h built)
      (registry : h'.registries[id]? = h.registries[id]?) (unaltered : isAltered h' id = false)
      (unmarked : h'.marks = []) (surfaces : ∀ k ∈ built, h'.surfaces[k]? = h.surfaces[k]?) :
      Used id h' built

/-! ## The invariant -/

/-- A surface of this registry as it was built. -/
structure BuiltIn (id : Nat) (s : Surface) : Prop where
  registry_eq : s.registry = id
  withdrawn_eq : s.withdrawn = []
  names_eq : ∃ shards count, s.names = Surface.nameList s.scope shards count

/-- The registry has own labels alone, and these surfaces are as they were built. -/
structure Keeps (h : Host) (id : Nat) (r : Registry) (built : List Nat) : Prop where
  uses : h.Uses id r
  surfaces : ∀ k ∈ built, ∃ s, h.surfaces[k]? = some s ∧ BuiltIn id s

variable {h h' : Host} {id k : Nat} {r : Registry} {built : List Nat}

theorem BuiltIn.identities_eq {s : Surface} (builtIn : BuiltIn id s) : s.identities = s.names :=
  Surface.identities_of_withdrawn_nil builtIn.withdrawn_eq

theorem BuiltFor.builtIn {s : Surface} {request : SurfaceRequest} {count : Nat}
    (builtFor : BuiltFor s request id count) : BuiltIn id s where
  registry_eq := builtFor.registry_eq
  withdrawn_eq := builtFor.withdrawn_eq
  names_eq := ⟨_, _, by rw [builtFor.names_eq, builtFor.scope_eq]⟩

theorem BuiltFor.identities_eq {s : Surface} {request : SurfaceRequest} {count : Nat}
    (builtFor : BuiltFor s request id count) :
    s.identities = Surface.nameList request.scope request.statistics.length count := by
  rw [builtFor.builtIn.identities_eq, builtFor.names_eq]

/-- No table has a name of throughput. -/
theorem rateNames_not_mem_nameList {name : MetricName}
    (rate : name ∈ [outgoingName, incomingName]) (scope : TableScope) (shards count : Nat) :
    name ∉ Surface.nameList scope shards count := by
  refine Surface.rateName_not_mem_nameList ?_ scope shards count
  rcases List.mem_pair.mp rate with rfl | rfl
  · exact List.mem_cons_self
  · exact List.mem_cons_of_mem _ List.mem_cons_self

theorem Keeps.congr (keeps : h.Keeps id r built) {s : Registry} (uses : h'.Uses id s)
    (same : ∀ k ∈ built, h'.surfaces[k]? = h.surfaces[k]?) : h'.Keeps id s built := by
  refine ⟨uses, fun k mem => ?_⟩
  rw [same k mem]
  exact keeps.surfaces k mem

theorem Keeps.push (keeps : h.Keeps id r built) {s : Registry} (uses : h'.Uses id s)
    {surface : Surface} (pushed : h'.surfaces = h.surfaces.push surface)
    (builtIn : BuiltIn id surface) : h'.Keeps id s (h.surfaces.size :: built) := by
  refine ⟨uses, fun k mem => ?_⟩
  rw [pushed]
  rcases List.mem_cons.mp mem with rfl | mem
  · exact ⟨surface, Array.getElem?_push_size, builtIn⟩
  · obtain ⟨s, found, known⟩ := keeps.surfaces k mem
    obtain ⟨inside, -⟩ := Array.getElem?_eq_some_iff.mp found
    refine ⟨s, ?_, known⟩
    rw [Array.getElem?_push_lt inside, ← Array.getElem?_eq_getElem inside]
    exact found

/-! ## Every further use -/

/-- The surface is built. Its names are bound besides those that were bound before, and it has the
instruments that are bound under them. -/
def Builds (request : SurfaceRequest) (levels id : Nat) (h : Host) (r : Registry) : Prop :=
  ∃ s h' t, buildSurface request h = .ok h.surfaces.size h' ∧
    h'.surfaces[h.surfaces.size]? = some s ∧ BuiltFor s request id levels ∧
    s.identities = Surface.nameList request.scope request.statistics.length levels ∧
    h'.Holds id t ∧ HandlesBound s t ∧
    ∀ name, name ∈ t.names ↔ name ∈ r.names ∨ name ∈ s.identities

/-- The release tells how many names of the surface were bound. Of the names that were bound before,
just those of other owners are left, the two of throughput among them. -/
def Releases (k id : Nat) (h : Host) (r : Registry) : Prop :=
  ∃ s h' t, h.surfaces[k]? = some s ∧
    releaseSurface k h = .ok (s.identities.filter (· ∈ r.names)).length h' ∧ h'.Holds id t ∧
    (∀ name, name ∈ t.names ↔ name ∈ r.names ∧ name ∉ s.identities) ∧
    ∀ name ∈ [outgoingName, incomingName], name ∈ r.names → name ∈ t.names

/-- The gauges of throughput are bound or found. -/
def SharesRates (flow : Item) (id : Nat) (h : Host) (r : Registry) : Prop :=
  ∃ outgoing incoming h' s,
    registerThroughput (.registry id) flow h = .ok (outgoing, incoming) h' ∧ h'.Holds id s ∧
    BindsThroughput r outgoing incoming s

/-- The context is made, and has the gauges of throughput. -/
def MakesContext (request : ContextRequest) (id : Nat) (h : Host) (r : Registry) : Prop :=
  ∃ c h' s, createContext request h = .ok (.context h.contexts.size) h' ∧
    h'.contexts[h.contexts.size]? = some c ∧ h'.Holds id s ∧
    BindsThroughput r c.outgoing c.incoming s

/-- A tracker is to be made, over a window that is too long for a float. -/
def IsEndless (request : ContextRequest) : Prop :=
  request.flow = none ∧
    (request.settings.getD Settings.standard).windowSeconds.toFloat = .error .overflow

theorem Keeps.build (keeps : h.Keeps id r built) {request : SurfaceRequest} {settings : Settings}
    {levels : Nat} (registry : request.registry = .registry id)
    (given : request.settings = .ok settings) (usable : UsableSettings settings levels) :
    Builds request levels id h r ∧
      ∃ h' t, buildSurface request h = .ok h.surfaces.size h' ∧
        h'.Keeps id t (h.surfaces.size :: built) := by
  have counted : request.settings.bind levelCount = .ok levels := by
    rw [given]
    exact usable.counted
  obtain ⟨s, h', t, ran, pushed, builtFor, handles, uses, names⟩ :=
    buildSurface_run keeps.uses registry counted
  have all := builtFor.builtIn.identities_eq
  refine ⟨⟨s, h', t, ran, ?_, builtFor, ?_, uses.toHolds, handles, ?_⟩, h', t, ran,
    keeps.push uses pushed builtFor.builtIn⟩
  · rw [pushed]
    exact Array.getElem?_push_size
  · rw [all, builtFor.names_eq]
  · rw [all]
    exact names

theorem Keeps.release (keeps : h.Keeps id r built) (mem : k ∈ built) :
    Releases k id h r ∧ ∃ t, ((releaseSurface k).after h).Keeps id t built := by
  obtain ⟨s, found, builtIn⟩ := keeps.surfaces k mem
  obtain ⟨shards, count, names⟩ := builtIn.names_eq
  rw [← builtIn.identities_eq] at names
  obtain ⟨h', ran, rid, surfaces⟩ := releaseSurface_run keeps.uses.clear found builtIn.registry_eq
  have uses := rid.uses (keeps.uses.own.removeAll s.identities)
  have left : ∀ name, name ∈ (r.removeAll s.identities).names ↔
      name ∈ r.names ∧ name ∉ s.identities := by
    intro name
    rw [keeps.uses.own.exact.names_removeAll, List.mem_filter, decide_eq_true_eq]
  have distinct : s.identities.Nodup := by
    rw [names]
    exact Surface.nameList_nodup _ _ _
  have counted : (r.names.filter (· ∈ s.identities)).length =
      (s.identities.filter (· ∈ r.names)).length := by
    refine ((List.perm_ext_iff_of_nodup (keeps.uses.own.exact.names_nodup.filter _)
      (distinct.filter _)).mpr fun name => ?_).length_eq
    simp only [List.mem_filter, decide_eq_true_eq]
    exact And.comm
  rw [counted] at ran
  refine ⟨⟨s, h', r.removeAll s.identities, found, ran, uses.toHolds, left,
    fun name rate bound => (left name).mpr ⟨bound, ?_⟩⟩, r.removeAll s.identities, ?_⟩
  · rw [names]
    exact rateNames_not_mem_nameList rate _ _ _
  · rw [after_of_ok ran]
    exact keeps.congr uses fun k _ => by rw [surfaces]

theorem Keeps.throughput (keeps : h.Keeps id r built) {flow : Item} (source : h.IsSource flow) :
    SharesRates flow id h r ∧
      ∃ t, ((registerThroughput (.registry id) flow).after h).Keeps id t built := by
  obtain ⟨outgoing, incoming, h', s, ran, binds, uses, same⟩ :=
    registerThroughput_run keeps.uses source
  have surfaces : h'.surfaces = h.surfaces := congrArg (·.surfaces) same
  refine ⟨⟨outgoing, incoming, h', s, ran, uses.toHolds, binds⟩, s, ?_⟩
  rw [after_of_ok ran]
  exact keeps.congr uses fun k _ => by rw [surfaces]

theorem Keeps.context (keeps : h.Keeps id r built) {request : ContextRequest} {levels : Nat}
    (registry : request.registry = some (.registry id))
    (usable : UsableSettings (request.settings.getD Settings.standard) levels)
    (source : ∀ flow, request.flow = some flow → h.IsSource flow) :
    (¬ IsEndless request → MakesContext request id h r) ∧
      (IsEndless request → createContext request h = .error (.throughput (.number .overflow)) h) ∧
      ∃ t, ((createContext request).after h).Keeps id t built := by
  have refused (endless : IsEndless request) :
      createContext request h = .error (.throughput (.number .overflow)) h :=
    createContext_refused_run registry usable endless.1 endless.2 h
  by_cases endless : IsEndless request
  · refine ⟨absurd endless, refused, r, ?_⟩
    rw [after_of_error (refused endless)]
    exact keeps
  · obtain ⟨c, h', s, ran, made⟩ : ∃ c h' s,
        createContext request h = .ok (.context h.contexts.size) h' ∧ ContextMade id h r c h' s := by
      cases given : request.flow with
      | some flow => exact createContext_given_run keeps.uses registry usable given (source flow given)
      | none =>
        rcases usable.toFloat_cases with ⟨x, float⟩ | beyond
        · exact createContext_made_run keeps.uses registry usable given float
        · exact absurd ⟨given, beyond⟩ endless
    refine ⟨fun _ => ⟨c, h', s, ran, ?_, made.uses.toHolds, made.binds⟩, refused, s, ?_⟩
    · rw [made.contexts]
      exact Array.getElem?_push_size
    · rw [after_of_ok ran]
      exact keeps.congr made.uses fun k _ => by rw [made.surfaces]

/-- Whatever it is used for, the registry has own labels alone. -/
theorem Used.keeps (used : Used id h built) : ∃ r, h.Keeps id r built := by
  induction used with
  | empty holds unmarked =>
    exact ⟨_, ⟨holds, Registry.own_empty _, unmarked⟩, fun k mem => by cases mem⟩
  | build _ registry given usable ran ih =>
    obtain ⟨r, keeps⟩ := ih
    obtain ⟨-, g, t, ran', keeps'⟩ := keeps.build registry given usable
    rw [ran] at ran'
    cases ran'
    exact ⟨t, keeps'⟩
  | release _ mem ih =>
    obtain ⟨r, keeps⟩ := ih
    exact (keeps.release mem).2
  | throughput _ source ih =>
    obtain ⟨r, keeps⟩ := ih
    exact (keeps.throughput source).2
  | context _ registry usable source ih =>
    obtain ⟨r, keeps⟩ := ih
    exact (keeps.context registry usable source).2.2
  | elsewhere _ registry unaltered unmarked surfaces ih =>
    obtain ⟨r, keeps⟩ := ih
    have held := keeps.uses.held
    rw [← registry] at held
    exact ⟨r, keeps.congr ⟨⟨held, unaltered⟩, keeps.uses.own, unmarked⟩ surfaces⟩

/-- However a registry was used, each further use of it goes through, but for a context that is to
make a tracker over an endless window. That one is not made, and leaves everything as it was. -/
theorem uses_go_through (used : Used id h built) :
    ∃ r, h.Holds id r ∧
      (∀ request settings levels, request.registry = .registry id →
        request.settings = .ok settings → UsableSettings settings levels →
        Builds request levels id h r) ∧
      (∀ k ∈ built, Releases k id h r) ∧
      (∀ flow, h.IsSource flow → SharesRates flow id h r) ∧
      ∀ request levels, request.registry = some (.registry id) →
        UsableSettings (request.settings.getD Settings.standard) levels →
        (∀ flow, request.flow = some flow → h.IsSource flow) →
        (¬ IsEndless request → MakesContext request id h r) ∧
          (IsEndless request →
            createContext request h = .error (.throughput (.number .overflow)) h) := by
  obtain ⟨r, keeps⟩ := used.keeps
  refine ⟨r, keeps.uses.toHolds, ?_, ?_, ?_, ?_⟩
  · intro request settings levels registry given usable
    exact (keeps.build registry given usable).1
  · intro k mem
    exact (keeps.release mem).1
  · intro flow source
    exact (keeps.throughput source).1
  · intro request levels registry usable source
    obtain ⟨makes, refused, -⟩ := keeps.context registry usable source
    exact ⟨makes, refused⟩

/-! ## A first surface -/

/-- The usual settings over another window. -/
def settingsOver (window : Value) : Settings := { Settings.standard with windowSeconds := window }

theorem settingsOver_usable {window : Value} {n : Number} (found : window.number? = some n)
    (above : ¬ n ≤ .int 0) : UsableSettings (settingsOver window) 7 where
  checked := by
    have levels : ¬ Number.int Settings.defaultMaxLevels < .int 1 := by decide +kernel
    have named : isExportName Settings.defaultExportName = true := by decide +kernel
    have number : (Value.int Settings.defaultMaxLevels).number? =
      some (.int Settings.defaultMaxLevels) := rfl
    have text : (Value.str Settings.defaultExportName).text? = some Settings.defaultExportName := rfl
    rw [Settings.ofValues]
    dsimp only [settingsOver, Settings.standard]
    rw [number]
    dsimp only
    rw [if_neg levels, text]
    dsimp only
    rw [named, if_neg (by decide), found]
    dsimp only
    rw [if_neg above]
  counted := rfl

/-- The host of a process that just made its first registry and an engine. -/
def furnished : Host := addEngine.after (started (.str "db"))

theorem furnished_uses : furnished.Uses 0 { exportName := .str "db" } := by
  have holds := started_holds (.str "db")
  refine ⟨⟨holds.held, holds.unaltered⟩, Registry.own_empty _, ?_⟩
  obtain ⟨series, targets, journal, same⟩ := started_eq (.str "db")
  show (started (.str "db")).marks = []
  rw [same]

theorem furnished_used : Used 0 furnished [] :=
  .empty furnished_uses.toHolds furnished_uses.unmarked

theorem surfaces_furnished : furnished.surfaces.size = 0 := by
  obtain ⟨series, targets, journal, same⟩ := started_eq (.str "db")
  show (started (.str "db")).surfaces.size = 0
  rw [same]
  rfl

/-- A first surface is built in this process. -/
theorem build_first {request : SurfaceRequest} {levels : Nat}
    (registry : request.registry = .registry 0)
    (counted : request.settings.bind levelCount = .ok levels) :
    ∃ s g r, buildSurface request furnished = .ok 0 g ∧ g.surfaces = #[s] ∧
      BuiltFor s request 0 levels ∧ g.Uses 0 r ∧ ∀ name, name ∈ r.names ↔ name ∈ s.names := by
  obtain ⟨s, g, r, ran, pushed, builtFor, -, uses, names⟩ :=
    buildSurface_run furnished_uses registry counted
  rw [Array.eq_empty_of_size_eq_zero surfaces_furnished] at pushed
  rw [surfaces_furnished] at ran
  refine ⟨s, g, r, ran, pushed, builtFor, uses, fun name => ?_⟩
  rw [names]
  simp [Registry.names, OrderedMap.keys]

/-- The surface of a table that is called like the scope of throughput. -/
def allTable : SurfaceRequest :=
  ⟨TableScope.all, .none, [], .engine 0, .registry 0, .ok (settingsOver (.float 10))⟩

/-! ## Tables that are written alike -/

def underscored : TableScope :=
  ⟨"ks", "t_0", TableScope.isNamePart_of_all (by decide) (by decide +kernel),
    TableScope.isNamePart_of_all (by decide) (by decide +kernel), by decide⟩

def sharded : TableScope :=
  ⟨"ks", "t", TableScope.isNamePart_of_all (by decide) (by decide +kernel),
    TableScope.isNamePart_of_all (by decide) (by decide +kernel), by decide⟩

/-- A table of one shard. -/
def oneShard (scope : TableScope) : SurfaceRequest :=
  { allTable with scope := scope, statistics := [.statistics 0] }

/-- The table `t_0` is built, and beside it the table `t`, whose shard 0 has the same scope. -/
theorem build_underscored_sharded :
    ∃ g g' s s' r, buildSurface (oneShard underscored) furnished = .ok 0 g ∧
      buildSurface (oneShard sharded) g = .ok 1 g' ∧ g.surfaces = #[s] ∧ g'.surfaces = #[s, s'] ∧
      BuiltFor s (oneShard underscored) 0 7 ∧ BuiltFor s' (oneShard sharded) 0 7 ∧ g'.Uses 0 r ∧
      ∀ name, name ∈ r.names ↔ name ∈ s.names ∨ name ∈ s'.names := by
  have registry (scope : TableScope) : (oneShard scope).registry = .registry 0 := rfl
  have counted (scope : TableScope) : (oneShard scope).settings.bind levelCount = .ok 7 := rfl
  obtain ⟨s, g, t, ran, surfaces, builtFor, uses, names⟩ :=
    build_first (registry underscored) (counted underscored)
  obtain ⟨s', g', t', ran', pushed, builtFor', -, uses', names'⟩ :=
    buildSurface_run uses (registry sharded) (counted sharded)
  rw [surfaces] at ran' pushed
  refine ⟨g, g', s, s', t', ran, ran', surfaces, pushed, builtFor, builtFor', uses', fun name => ?_⟩
  rw [names', names]

/-- These tables and the gauges of throughput are in one registry. When `t_0` is released all of its
names are unbound, and those of `t` and of throughput stay. -/
theorem uses_go_through_underscored :
    ∃ g g' h, buildSurface (oneShard underscored) furnished = .ok 0 g ∧
      buildSurface (oneShard sharded) g = .ok 1 g' ∧
      h = (registerThroughput (.registry 0) (.rates 0 "out" "in")).after g' ∧ Used 0 h [1, 0] ∧
      ∃ h' r, releaseSurface 0 h = .ok (Surface.nameList underscored 1 7).length h' ∧
        h'.Holds 0 r ∧ (∀ name ∈ Surface.nameList underscored 1 7, name ∉ r.names) ∧
        ∀ name ∈ Surface.nameList sharded 1 7 ++ [outgoingName, incomingName], name ∈ r.names := by
  have usable : UsableSettings (settingsOver (.float 10)) 7 :=
    settingsOver_usable rfl (by decide +kernel)
  obtain ⟨g, g', s, s', r, ran, ran', -, surfaces, builtFor, builtFor', uses, names⟩ :=
    build_underscored_sharded
  have source : g'.IsSource (.rates 0 "out" "in") := trivial
  obtain ⟨outgoing, incoming, h, t, rated, binds, usesRated, same⟩ :=
    registerThroughput_run uses source
  have used : Used 0 h [1, 0] := by
    have built : Used 0 g' [1, 0] := .build (.build furnished_used rfl rfl usable ran) rfl rfl usable ran'
    rw [← after_of_ok rated]
    exact .throughput built source
  refine ⟨g, g', h, ran, ran', (after_of_ok rated).symm, used, ?_⟩
  obtain ⟨t', holds, -, releases, -⟩ := uses_go_through used
  obtain ⟨gone, h', r', found, released, holds', left, -⟩ := releases 0 (by simp)
  obtain rfl : t' = t := Option.some.inj (holds.held.symm.trans usesRated.held)
  obtain rfl : gone = s := by
    rw [show h.surfaces = g'.surfaces from congrArg (·.surfaces) same, surfaces] at found
    exact (Option.some.inj found).symm
  have own : gone.identities = Surface.nameList underscored 1 7 := builtFor.identities_eq
  rw [own] at released left
  have bound (name : MetricName) (mem : name ∈ gone.names ∨ name ∈ s'.names) : name ∈ t'.names :=
    (binds.names_iff name).mpr (Or.inl ((names name).mpr mem))
  have whole : (Surface.nameList underscored 1 7).filter (· ∈ t'.names) =
      Surface.nameList underscored 1 7 := List.filter_eq_self.mpr fun name mem =>
    decide_eq_true (bound name (Or.inl (builtFor.names_eq ▸ mem)))
  have different : sharded ≠ underscored := fun same => absurd (congrArg (·.table) same) (by decide)
  rw [whole] at released
  refine ⟨h', r', released, holds', ?_, ?_⟩
  · exact fun name mem stays => ((left name).mp stays).2 mem
  · intro name mem
    rw [left]
    rcases List.mem_append.mp mem with other | rate
    · exact ⟨bound name (Or.inr (builtFor'.names_eq ▸ other)), fun own =>
        different (Surface.scope_eq_of_mem_nameList other own)⟩
    · exact ⟨(binds.names_iff name).mpr (Or.inr (List.mem_pair.mp rate)),
        rateNames_not_mem_nameList rate _ _ _⟩

/-! ## An endless window -/

/-- A window of this many seconds passes the checks of settings. -/
def endlessSeconds : Int := Nat.pow 10 400

/-- A context without a source, over a window that is longer than any float. -/
def endless : ContextRequest :=
  ⟨.engine 0, some (.registry 0), none, some (settingsOver (.int endlessSeconds))⟩

theorem toFloat_int_of_infinite {n : Int} (beyond : (Float.ofInt n).isFinite = false) :
    Value.toFloat (.int n) = .error .overflow := by
  rw [toFloat_of_number? rfl, Number.toFloat]
  exact if_neg (by rw [beyond]; exact Bool.false_ne_true)

/-- The settings of a context can be such that it is not made, even in a registry without names. -/
theorem createContext_endless :
    Used 0 furnished [] ∧ endless.registry = some (.registry 0) ∧
      UsableSettings (endless.settings.getD Settings.standard) 7 ∧ endless.flow = none ∧
      createContext endless furnished = .error (.throughput (.number .overflow)) furnished := by
  have usable : UsableSettings (settingsOver (.int endlessSeconds)) 7 :=
    settingsOver_usable rfl (by decide +kernel)
  have beyond : Value.toFloat (.int endlessSeconds) = .error .overflow :=
    toFloat_int_of_infinite (by decide +kernel)
  have registry : endless.registry = some (.registry 0) := rfl
  have missing : endless.flow = none := rfl
  exact ⟨furnished_used, registry, usable, missing,
    createContext_refused_run registry usable missing beyond furnished⟩

end Host

end StorageMetrics
