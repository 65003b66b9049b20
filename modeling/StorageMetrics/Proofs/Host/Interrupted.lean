import StorageMetrics.Proofs.Host.Lifetimes
import StorageMetrics.Proofs.Host.Refusal
import StorageMetrics.Proofs.Registry.Wanted
import StorageMetrics.Proofs.Surface.Names

/-
  Builds that end early. A build wants the names of its surface one after the other, and nothing takes
  back what it has bound when the registry refuses one of them, or when the settings give no count of
  levels. Each step of a build goes for its names so (`GoesFor`), and so does the build as a whole.
  `build_leaves_prefix`: a build goes through, or it ends at a name, and then the registry has the
  names before that one besides what it had.
-/

namespace StorageMetrics

open StorageMetrics.Action

/-! ## What a surface wants -/

namespace Surface

def wantedOfShard (scope : TableScope) (shard : Nat) : List Wanted :=
  Catalog.entries.map fun e => .offered (scope.shardName e.label shard) e.source.instrumentKind

def wantedOfShards (scope : TableScope) (first count : Nat) : List Wanted :=
  (List.range' first count).flatMap (wantedOfShard scope)

def wantedOfLevels (scope : TableScope) (levels : List Nat) : List Wanted :=
  levels.map fun level => .offered (scope.name (levelLabel level)) .gauge

/-- What a build wants before it needs the number of levels. -/
def wantedFirst (scope : TableScope) (shards : Nat) : List Wanted :=
  wantedOfShards scope 0 shards ++
    ([Wanted.obtained (scope.name ingestTimeLabel) .histogram] ++
      [Wanted.obtained (scope.name ingestWaitLabel) .histogram])

/-- What it wants once it has the number. -/
def wantedThen (scope : TableScope) (levels : Nat) : List Wanted :=
  wantedOfLevels scope (List.range levels) ++
    ([Wanted.offered (scope.name pendingLabel) .gauge] ++
      ([Wanted.offered (scope.name liveLabel) .gauge] ++
        ([Wanted.obtained (scope.name iterMoveLabel) .counter] ++
          ([Wanted.obtained (scope.name iterSeekLabel) .counter] ++
            [Wanted.obtained (scope.name iterNewLabel) .counter]))))

theorem name_wantedOfShards (scope : TableScope) (first count : Nat) :
    (wantedOfShards scope first count).map Wanted.name =
      (List.range' first count).flatMap (shardNames scope) := by
  rw [wantedOfShards, List.map_flatMap]
  refine List.flatMap_congr fun shard _ => ?_
  rw [wantedOfShard, shardNames, Catalog.labels, List.map_map, List.map_map]
  rfl

/-- They are the names of the surface, in order. -/
theorem name_wanted (scope : TableScope) (shards levels : Nat) :
    (wantedFirst scope shards ++ wantedThen scope levels).map Wanted.name =
      nameList scope shards levels := by
  rw [Host.nameList_eq, wantedFirst, wantedThen, wantedOfLevels]
  simp only [List.map_append, name_wantedOfShards, List.map_map, List.append_assoc]
  rfl

end Surface

namespace SurfaceRequest

/-- Everything that a build wants until it ends by itself. -/
def wanted (request : SurfaceRequest) : List Wanted :=
  Surface.wantedFirst request.scope request.statistics.length ++
    match request.settings.bind Host.levelCount with
    | .ok levels => Surface.wantedThen request.scope levels
    | .error _ => []

/-- Why it ends there, if the settings give no number of levels. -/
def noLevels (request : SurfaceRequest) : Option Fault :=
  match request.settings.bind Host.levelCount with
  | .ok _ => none
  | .error e => some e

/-- No name is wanted twice. -/
theorem nodup_wanted (request : SurfaceRequest) : (request.wanted.map Wanted.name).Nodup := by
  have whole (levels : Nat) := Surface.nameList_nodup request.scope request.statistics.length levels
  simp only [← Surface.name_wanted] at whole
  unfold wanted
  cases request.settings.bind Host.levelCount with
  | ok levels => exact whole levels
  | error e =>
    have first := whole 0
    rw [List.map_append] at first
    rw [List.append_nil]
    exact (List.nodup_append.mp first).1

end SurfaceRequest

namespace Host

/-! ## Going for names -/

/-- A reachable registry that nobody meddled with, on a host with this many instruments or more. -/
structure Ready (id made : Nat) (h : Host) (r : Registry) : Prop extends h.Holds id r where
  reachable : r.Reachable
  made_le : made ≤ h.instruments.size

/-- How an action ended that goes for these names in turn and then stops, if there is a reason to. The
surfaces are as they were unless it went through. -/
inductive Ended (id made : Nat) (ws : List Wanted) (stop : Option Fault)
    (ends : Array Surface → Array Surface → Prop) (h : Host) (r : Registry) :
    EStateM.Result Fault Host α → Prop where
  | through {a : α} {h' : Host} {s : Registry} (ready : Ready id made h' s)
      (follows : r.Follows made ws s) (goesOn : stop = none) (end_ : ends h.surfaces h'.surfaces) :
      Ended id made ws stop ends h r (.ok a h')
  | stopped {e : Fault} {h' : Host} {s : Registry} (ready : Ready id made h' s)
      (follows : r.Follows made ws s) (reason : stop = some e) (same : h'.surfaces = h.surfaces) :
      Ended id made ws stop ends h r (.error e h')
  | refused {done rest : List Wanted} {next : Wanted} {fresh : Nat} {reason : RegistrationError}
      {h' : Host} {s : Registry} (ready : Ready id made h' s) (follows : r.Follows made done s)
      (order : ws = done ++ next :: rest) (failed : next.decide s fresh = .error reason)
      (same : h'.surfaces = h.surfaces) :
      Ended id made ws stop ends h r (.error (.registration reason) h')

/-- The action goes for these names in turn, in every registry. -/
def GoesFor (id made : Nat) (ws : List Wanted) (stop : Option Fault)
    (ends : Array Surface → Array Surface → Prop) (t : Action α) : Prop :=
  ∀ h r, Ready id made h r → Ended id made ws stop ends h r (t h)

/-- The surfaces are as they were. -/
def KeepsSurfaces (before after : Array Surface) : Prop := after = before

variable {id made : Nat} {h : Host} {r : Registry} {ws ws' : List Wanted} {stop : Option Fault}
  {ends : Array Surface → Array Surface → Prop}

theorem GoesFor.pure (a : α) : GoesFor id made [] none KeepsSurfaces (Pure.pure a : Action α) :=
  fun _ _ ready => .through ready .done rfl rfl

/-- After an action that goes through the next one goes for its names. -/
theorem GoesFor.bind {t : Action α} {f : α → Action β}
    (first : GoesFor id made ws none KeepsSurfaces t)
    (rest : ∀ a, GoesFor id made ws' stop ends (f a)) :
    GoesFor id made (ws ++ ws') stop ends (t >>= f) := by
  intro h r ready
  have ended := first h r ready
  cases ran : t h with
  | error e g =>
    rw [bind_of_error ran]
    rw [ran] at ended
    cases ended with
    | stopped _ _ reason _ => cases reason
    | refused ready follows order failed same =>
      exact .refused ready follows (by rw [order, List.append_assoc, List.cons_append]) failed same
  | ok a g =>
    rw [bind_of_ok ran]
    rw [ran] at ended
    cases ended with
    | @through _ _ s ready follows _ kept =>
      have same : g.surfaces = h.surfaces := kept
      have further := rest a g s ready
      cases last : f a g with
      | ok b h' =>
        rw [last] at further
        cases further with
        | through ready' follows' goesOn end_ =>
          exact .through ready' (follows.append follows') goesOn (same ▸ end_)
      | error e h' =>
        rw [last] at further
        cases further with
        | stopped ready' follows' reason same' =>
          exact .stopped ready' (follows.append follows') reason (same'.trans same)
        | refused ready' follows' order failed same' =>
          exact .refused ready' (follows.append follows') (by rw [order, List.append_assoc]) failed
            (same'.trans same)

/-- After an action that stops nothing comes. -/
theorem GoesFor.bind_stopped {e : Fault} {t : Action α}
    (first : GoesFor id made ws (some e) KeepsSurfaces t) (f : α → Action β) :
    GoesFor id made ws (some e) ends (t >>= f) := by
  intro h r ready
  have ended := first h r ready
  cases ran : t h with
  | ok a g =>
    rw [ran] at ended
    cases ended with
    | through _ _ goesOn _ => cases goesOn
  | error e g =>
    rw [bind_of_error ran]
    rw [ran] at ended
    cases ended with
    | stopped ready follows reason same => exact .stopped ready follows reason same
    | refused ready follows order failed same => exact .refused ready follows order failed same

/-! ## Single names -/

/-- A decision that is settled binds its one name, or finds it bound, or is the refusal of it. -/
theorem ended_of_settled {t : Action Handle} {w : Wanted} {i : Instrument} (ready : Ready id made h r)
    (ran : t h = settled id w.name (w.decide r h.instruments.size) (h.withInstrument i)) :
    Ended id made [w] none KeepsSurfaces h r (t h) := by
  have holds := ready.toHolds.withInstrument i
  have size : h.instruments.size ≤ (h.withInstrument i).instruments.size := by
    rw [withInstrument, Array.size_push]
    exact Nat.le_succ _
  cases decided : w.decide r h.instruments.size with
  | error reason =>
    rw [ran, decided]
    exact .refused ⟨holds, ready.reachable, Nat.le_trans ready.made_le size⟩ .done rfl decided rfl
  | ok reg =>
    rw [ran, decided]
    exact .through ⟨holds.rebind _ _, Wanted.reachable_of_decide ready.reachable decided,
      Nat.le_trans ready.made_le size⟩ (.single ready.made_le decided) rfl rfl

theorem ended_registerNew (ready : Ready id made h r) (name : MetricName) (i : Instrument) :
    Ended id made [.offered name i.kind] none KeepsSurfaces h r
      ((do register id name (.instrument (← addInstrument i)) : Action Handle) h) := by
  refine ended_of_settled ready (i := i) ?_
  have made : addInstrument i h = .ok ⟨h.instruments.size, i.kind⟩ (h.withInstrument i) := rfl
  rw [bind_of_ok made]
  exact register_run (ready.toHolds.withInstrument i) name _

theorem goesFor_registerNew (name : MetricName) (i : Instrument) :
    GoesFor id made [.offered name i.kind] none KeepsSurfaces
      (do register id name (.instrument (← addInstrument i))) :=
  fun _ _ ready => ended_registerNew ready name i

theorem goesFor_registerGauge (name : MetricName) (query : Query) (message : String) :
    GoesFor id made [.offered name .gauge] none KeepsSurfaces
      (registerGauge id name query message) :=
  fun _ _ ready => ended_registerNew ready name (.gauge query _)

theorem goesFor_counter (name : MetricName) :
    GoesFor id made [.obtained name .counter] none KeepsSurfaces (counter id name) :=
  fun _ _ ready => ended_of_settled ready (counter_run ready.toHolds name)

theorem goesFor_histogram (name : MetricName) (biased : Value) :
    GoesFor id made [.obtained name .histogram] none KeepsSurfaces (histogram id name biased) :=
  fun _ _ ready => ended_of_settled ready (histogram_run ready.toHolds name biased)

/-! ## Shards and levels -/

theorem goesFor_registerCatalog (scope : TableScope) (shard : Nat) (statistics : Item)
    (entries : List CatalogEntry) :
    GoesFor id made
      (entries.map fun e => .offered (scope.shardName e.label shard) e.source.instrumentKind) none
      KeepsSurfaces (registerCatalog id scope shard statistics entries) := by
  induction entries with
  | nil => exact .pure ()
  | cons entry rest ih =>
    have one : GoesFor id made [.offered (scope.shardName entry.label shard) _] none KeepsSurfaces _ :=
      goesFor_registerNew _ (Instrument.ofSource statistics entry.source)
    rw [Instrument.kind_ofSource] at one
    rw [registerCatalog, ← bind_assoc]
    exact one.bind fun _ => ih

theorem goesFor_registerShards (scope : TableScope) (shard : Nat) (statistics : List Item) :
    GoesFor id made (Surface.wantedOfShards scope shard statistics.length) none KeepsSurfaces
      (registerShards id scope shard statistics) := by
  induction statistics generalizing shard with
  | nil => exact .pure ()
  | cons source rest ih =>
    rw [registerShards, Surface.wantedOfShards, List.length_cons, List.range'_succ,
      List.flatMap_cons]
    exact (goesFor_registerCatalog scope shard source _).bind fun _ => ih (shard + 1)

theorem goesFor_registerLevels (request : SurfaceRequest) (levels : List Nat) :
    GoesFor id made (Surface.wantedOfLevels request.scope levels) none KeepsSurfaces
      (registerLevels request id levels) := by
  induction levels with
  | nil => exact .pure []
  | cons level rest ih =>
    have all : Surface.wantedOfLevels request.scope (level :: rest) =
        [.offered (request.scope.name (Surface.levelLabel level)) .gauge] ++
          (Surface.wantedOfLevels request.scope rest ++ []) := by
      rw [List.append_nil]
      rfl
    rw [registerLevels, all]
    exact (goesFor_registerGauge _ _ _).bind fun _ => ih.bind fun _ => .pure _

/-! ## Whole builds -/

/-- There is one more surface, and it has these names. -/
def AddsSurface (names : List MetricName) (before after : Array Surface) : Prop :=
  ∃ s, after = before.push s ∧ s.names = names

/-- The last step of a build. -/
theorem goesFor_addSurface (entry : JournalEntry) (s : Surface) {names : List MetricName}
    (same : s.names = names) :
    GoesFor id made [] none (AddsSurface names)
      (do Action.report entry; addSurface s : Action Nat) :=
  fun _ _ ready => .through ⟨⟨ready.held, ready.unaltered⟩, ready.reachable, ready.made_le⟩
    .done rfl ⟨s, rfl, same⟩

theorem goesFor_ofExcept_error {x : Except Fault α} {e : Fault} (failed : x = .error e) :
    GoesFor id made [] (some e) KeepsSurfaces (Action.ofExcept x) := by
  rw [failed]
  exact fun _ _ ready => .stopped ready .done rfl rfl

/-- A build goes for what it wants, and stops where the settings give no number of levels. -/
theorem goesFor_buildSurface {request : SurfaceRequest} (registry : request.registry = .registry id) :
    GoesFor id made request.wanted request.noLevels (AddsSurface (request.wanted.map Wanted.name))
      (buildSurface request) := by
  have found : surfaceRegistry request = Pure.pure id := by
    rw [surfaceRegistry, registry]
    rfl
  rw [buildSurface, found, pure_bind]
  unfold SurfaceRequest.wanted SurfaceRequest.noLevels
  cases given : request.settings.bind levelCount with
  | error e =>
    dsimp only
    rw [List.append_nil, Surface.wantedFirst]
    refine (goesFor_registerShards _ _ _).bind fun _ => (goesFor_histogram _ _).bind fun _ => ?_
    rw [← List.append_nil [Wanted.obtained _ _]]
    exact (goesFor_histogram _ _).bind fun _ =>
      (goesFor_ofExcept_error rfl).bind_stopped _
  | ok levels =>
    have counted : Action.ofExcept (.ok levels : Except Fault Nat) = Pure.pure levels := rfl
    have last : Surface.wantedThen request.scope levels =
        Surface.wantedThen request.scope levels ++ [] := (List.append_nil _).symm
    dsimp only
    rw [Surface.name_wanted, last, Surface.wantedFirst, Surface.wantedThen]
    simp only [List.append_assoc]
    refine (goesFor_registerShards _ _ _).bind fun _ => (goesFor_histogram _ _).bind fun _ =>
      (goesFor_histogram _ _).bind fun _ => ?_
    rw [counted, pure_bind]
    exact (goesFor_registerLevels _ _).bind fun _ => (goesFor_registerGauge _ _ _).bind fun _ =>
      (goesFor_registerGauge _ _ _).bind fun _ => (goesFor_counter _).bind fun _ =>
      (goesFor_counter _).bind fun _ => (goesFor_counter _).bind fun _ =>
      goesFor_addSurface _ _ rfl

/-- A build goes through, or it ends at a name that the registry refuses, or at the settings, and then
there is no surface more. Either way the registry has, after what it had, those names of the surface
that were wanted until then and were not bound, each bound to an instrument of this build, and its
family table says what its bindings say. So an interrupted build leaves the registry as it was just
when everything that it wanted before its end was bound already. -/
theorem build_leaves_prefix (h : Host) (id : Nat) (r : Registry) (holds : h.Holds id r)
    (reachable : r.Reachable) (request : SurfaceRequest)
    (registry : request.registry = .registry id) :
    (∃ n h' s surface, buildSurface request h = .ok n h' ∧ h'.Holds id s ∧ s.Reachable ∧
      r.ExtendedBy h.instruments.size (request.wanted.map Wanted.name) s ∧
      h'.surfaces = h.surfaces.push surface ∧
      surface.names = request.wanted.map Wanted.name) ∨
    ∃ e h' s done, buildSurface request h = .error e h' ∧ h'.Holds id s ∧ s.Reachable ∧
      h'.surfaces = h.surfaces ∧ done <+: request.wanted ∧
      r.ExtendedBy h.instruments.size (done.map Wanted.name) s ∧
      (s = r ↔ ∀ w ∈ done, w.name ∈ r.names) ∧
      ((∃ next fresh reason, done ++ [next] <+: request.wanted ∧ next.RefusedBy s ∧
          next.decide s fresh = .error reason ∧ e = .registration reason) ∨
        done = request.wanted ∧ request.settings.bind levelCount = .error e) := by
  have ended := goesFor_buildSurface registry h r ⟨holds, reachable, Nat.le_refl _⟩
  have nodup := request.nodup_wanted
  cases ran : buildSurface request h with
  | ok n h' =>
    rw [ran] at ended
    cases ended with
    | @through _ _ s ready follows _ adds =>
      obtain ⟨surface, pushed, names⟩ := adds
      exact Or.inl ⟨n, h', s, surface, rfl, ready.toHolds, ready.reachable,
        follows.extendedBy nodup ready.reachable.exact, pushed, names⟩
  | error e h' =>
    rw [ran] at ended
    refine Or.inr ?_
    cases ended with
    | @stopped _ _ s ready follows reason same =>
      have failed : request.settings.bind levelCount = .error e := by
        unfold SurfaceRequest.noLevels at reason
        cases given : request.settings.bind levelCount with
        | ok levels => rw [given] at reason; cases reason
        | error e' => rw [given] at reason; cases reason; rfl
      exact ⟨e, h', s, request.wanted, rfl, ready.toHolds, ready.reachable, same,
        List.prefix_rfl, follows.extendedBy nodup ready.reachable.exact, follows.eq_iff nodup,
        Or.inr ⟨rfl, failed⟩⟩
    | @refused done rest next fresh reason _ s ready follows order failed same =>
      have before : done <+: request.wanted := ⟨next :: rest, order.symm⟩
      have upTo : done ++ [next] <+: request.wanted := ⟨rest, by rw [order, List.append_assoc]; rfl⟩
      have nodup : (done.map Wanted.name).Nodup := nodup.sublist (before.sublist.map _)
      exact ⟨_, h', s, done, rfl, ready.toHolds, ready.reachable, same, before,
        follows.extendedBy nodup ready.reachable.exact, follows.eq_iff nodup,
        Or.inl ⟨next, fresh, reason, upTo,
          Wanted.refusedBy_of_decide ready.reachable.exact failed, failed, rfl⟩⟩

/-! ## A build that ends at its second name -/

/-- A name that surfaces of this table want a histogram under. -/
def waitName : MetricName := TableScope.all.name Surface.ingestWaitLabel

/-- The name that they want before it. -/
def timeName : MetricName := TableScope.all.name Surface.ingestTimeLabel

/-- A process whose registry has a counter under the name. -/
def taken : Host := counted (.str "db") waitName

def takenRegistry : Registry := oneCounter (.str "db") waitName

theorem takenRegistry_histogram (fresh : Nat) :
    takenRegistry.histogram timeName fresh =
      .ok ⟨takenRegistry.bind timeName ⟨fresh, .histogram⟩, ⟨fresh, .histogram⟩, false⟩ := by
  have unbound : takenRegistry.bindings.get? timeName = none := by decide +kernel
  have alone : takenRegistry.families.get? (takenRegistry.family timeName.name) = none := by
    decide +kernel
  rw [Registry.histogram, Registry.obtain_of_unbound unbound]
  refine Registry.register_of_fits unbound fun entry found => ?_
  cases alone.symm.trans found

theorem takenRegistry_refuses (fresh other : Nat) :
    (takenRegistry.bind timeName ⟨fresh, .histogram⟩).histogram waitName other =
      .error (.otherKind waitName .counter .histogram) := by
  have bound : (takenRegistry.bind timeName ⟨fresh, .histogram⟩).bindings.get? waitName =
      some ⟨0, .counter⟩ := by
    have different : timeName ≠ waitName := by decide +kernel
    have held : takenRegistry.bindings.get? waitName = some ⟨0, .counter⟩ := by decide +kernel
    rw [Registry.get?_bindings_bind, if_neg different, held]
  rw [Registry.histogram, Registry.obtain_of_bound bound]
  exact if_neg (by decide)

/-- The build binds the first name and is refused the second. -/
theorem buildSurface_taken : ∃ h' fresh,
    buildSurface allTable taken =
      .error (.registration (.otherKind waitName .counter .histogram)) h' ∧
    h'.Holds 0 (takenRegistry.bind timeName ⟨fresh, .histogram⟩) := by
  obtain ⟨histogram_, same⟩ : ∃ i, i = Instrument.histogram (.standard (.bool true)) := ⟨_, rfl⟩
  have holds : taken.Holds 0 takenRegistry := counted_holds _ _
  have shards : registerShards 0 allTable.scope 0 allTable.statistics taken = .ok () taken := rfl
  have time := histogram_run holds timeName (.bool true)
  rw [takenRegistry_histogram, ← same] at time
  have holds' := (holds.withInstrument histogram_).rebind
    (takenRegistry.bind timeName ⟨taken.instruments.size, .histogram⟩) []
  have wait := histogram_run holds' waitName (.bool true)
  rw [takenRegistry_refuses, ← same] at wait
  refine ⟨_, taken.instruments.size, ?_, holds'.withInstrument histogram_⟩
  rw [buildSurface, bind_of_ok (surfaceRegistry_run rfl), bind_of_ok shards]
  exact (bind_of_ok time _).trans (bind_of_error wait _)

theorem build_leaves_prefix_taken :
    taken.Holds 0 takenRegistry ∧ takenRegistry.Reachable ∧ allTable.registry = .registry 0 ∧
      ∃ e h' s done, buildSurface allTable taken = .error e h' ∧ h'.Holds 0 s ∧
        done <+: allTable.wanted ∧
        takenRegistry.ExtendedBy taken.instruments.size (done.map Wanted.name) s := by
  have holds : taken.Holds 0 takenRegistry := counted_holds _ _
  have reachable : takenRegistry.Reachable := oneCounter_reachable _ _
  refine ⟨holds, reachable, rfl, ?_⟩
  obtain ⟨n, h', s, surface, ran, -⟩ | ⟨e, h', s, done, ran, holds', -, -, before, extended, -⟩ :=
    build_leaves_prefix taken 0 takenRegistry holds reachable allTable rfl
  · obtain ⟨g, fresh, failed, -⟩ := buildSurface_taken
    cases ran.symm.trans failed
  · exact ⟨e, h', s, done, ran, holds', before, extended⟩

/-- After a refused build a name is bound that was not bound before. -/
theorem build_refused_keeps_binding :
    taken.Holds 0 takenRegistry ∧ takenRegistry.Reachable ∧ timeName ∉ takenRegistry.names ∧
      ∃ e h' s, buildSurface allTable taken = .error e h' ∧ h'.Holds 0 s ∧
        s.names = takenRegistry.names ++ [timeName] := by
  have unbound : takenRegistry.bindings.get? timeName = none := by decide +kernel
  obtain ⟨h', fresh, failed, holds'⟩ := buildSurface_taken
  exact ⟨counted_holds _ _, oneCounter_reachable _ _, OrderedMap.get?_eq_none_iff.mp unbound, _, h', _,
    failed, holds', Registry.names_bind unbound _⟩

end Host

end StorageMetrics
