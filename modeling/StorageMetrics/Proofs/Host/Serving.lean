import StorageMetrics.Proofs.Exposition.Samples
import StorageMetrics.Proofs.Host.Lifetimes
import StorageMetrics.Proofs.Host.Standing

/-
  Registries that serve surfaces. A registry that has a target for itself is used for surfaces, their
  releases and the gauges of throughput; in between the process goes on as it likes, as long as it
  spares the registry (`Spares`). Every registration keeps the bound instruments accounted for: under
  a name of the catalog stands the instrument that reads the statistics of the shard, and every
  histogram has the usual bounds (`Wired.settle`). A release only takes away (`Wired.restrict`). So
  they are accounted for at every time (`Serves.wired`).
-/

namespace StorageMetrics

open StorageMetrics.Action

/-! ## Properties that actions preserve -/

/-- Whatever comes of the action, the property holds afterwards if it did before. -/
def Action.Preserves (P : Host → Prop) (t : Action α) : Prop := ∀ h, P h → P (t.after h)

namespace Action.Preserves

variable {P : Host → Prop} {t : Action α}

theorem pure (a : α) : Preserves P (Pure.pure a : Action α) := fun _ holds => holds

theorem ofExcept (x : Except Fault α) : Preserves P (Action.ofExcept x) := by
  intro h holds
  cases x <;> exact holds

/-- The property holds after two steps, if it does after the first and the second preserves it. -/
theorem after_bind {f : α → Action β} {h : Host} (first : P (t.after h))
    (rest : ∀ a, Preserves P (f a)) : P ((t >>= f).after h) := by
  cases ran : t h with
  | ok a g =>
    rw [after_of_ok ran] at first
    rw [after_bind_of_ok ran]
    exact rest a g first
  | error e g =>
    rw [after_of_error ran] at first
    rwa [after_of_error (bind_of_error ran f)]

theorem bind {f : α → Action β} (first : Preserves P t) (rest : ∀ a, Preserves P (f a)) :
    Preserves P (t >>= f) := fun h holds => after_bind (first h holds) rest

/-- What goes on from the host itself. -/
theorem get {f : Host → Action β} (rest : ∀ g, Preserves P (f g)) :
    Preserves P (MonadState.get >>= f) := bind (fun _ holds => holds) rest

end Action.Preserves

/-! ## Instruments as their owners write them -/

/-- The histograms of surfaces are the usual ones. -/
def Instrument.IsUsual : Instrument → Prop
  | .histogram contents => contents.IsUsual
  | _ => True

/-- What owners make of an instrument: a counter counts, a histogram takes values in. -/
inductive Instrument.Rewritten : Instrument → Instrument → Prop where
  | same (i : Instrument) : Rewritten i i
  | counter (total total' : Value) : Rewritten (.counter total) (.counter total')
  | histogram {contents contents' : Histogram} (bounds : contents'.bounds = contents.bounds)
      (counts : contents'.counts.length = contents.counts.length)
      (summed : contents'.isSummed = contents.isSummed) :
      Rewritten (.histogram contents) (.histogram contents')

namespace Instrument

variable {i j : Instrument}

theorem Rewritten.kind_eq (rewritten : Rewritten i j) : j.kind = i.kind := by
  cases rewritten <;> rfl

theorem Rewritten.isUsual (rewritten : Rewritten i j) (usual : i.IsUsual) : j.IsUsual := by
  cases rewritten with
  | same => exact usual
  | counter => trivial
  | histogram bounds counts summed =>
    have usual : Histogram.IsUsual _ := usual
    exact ⟨bounds.trans usual.bounds_eq, by rw [counts, bounds, usual.length_counts],
      summed.trans usual.isSummed⟩

/-- Nobody writes what reads a statistic. -/
theorem Rewritten.eq_ofSource {item : Item} {source : StatSource}
    (rewritten : Rewritten (ofSource item source) j) : j = ofSource item source := by
  cases source <;> cases rewritten <;> rfl

end Instrument

/-! ## What is bound for surfaces -/

/-- The name is one of a shard of the surface, and the instrument reads the shard's statistics. -/
def SurfaceRequest.Wires (request : SurfaceRequest) (name : MetricName) (i : Instrument) : Prop :=
  ∃ shard item, ∃ entry ∈ Catalog.entries, request.statistics[shard]? = some item ∧
    name = request.scope.shardName entry.label shard ∧ i = .ofSource item entry.source

/-- The instrument is one that these surfaces, or throughput, have bound under the name. -/
structure Accounted (built : List SurfaceRequest) (name : MetricName) (i : Instrument) : Prop where
  named : ∃ (scope : TableScope) (table : String), name = scope.build name.name table
  usual : i.IsUsual
  wired : name.name ∈ Catalog.labels → ∃ request ∈ built, request.Wires name i

theorem Accounted.mono {built : List SurfaceRequest} {name : MetricName} {i : Instrument}
    (accounted : Accounted built name i) (request : SurfaceRequest) :
    Accounted (request :: built) name i where
  named := accounted.named
  usual := accounted.usual
  wired known := by
    obtain ⟨other, mem, wires⟩ := accounted.wired known
    exact ⟨other, List.mem_cons_of_mem _ mem, wires⟩

theorem Accounted.rewritten {built : List SurfaceRequest} {name : MetricName} {i j : Instrument}
    (accounted : Accounted built name i) (rewritten : i.Rewritten j) : Accounted built name j where
  named := accounted.named
  usual := rewritten.isUsual accounted.usual
  wired known := by
    obtain ⟨request, mem, shard, item, entry, among, given, same, rfl⟩ := accounted.wired known
    exact ⟨request, mem, shard, item, entry, among, given, same, rewritten.eq_ofSource⟩

namespace Host

/-- The registry stands on its target, and every instrument in it is accounted for. -/
structure Wired (built : List SurfaceRequest) (id target failures : Nat) (h : Host) (r : Registry) :
    Prop extends h.Stands id target failures r where
  own : r.Own
  instruments : ∀ name hd, r.bindings.get? name = some hd →
    ∃ i, h.instruments[hd.id]? = some i ∧ i.kind = hd.kind ∧ Accounted built name i

/-- Some registry under the number is wired for these surfaces. -/
def IsWired (built : List SurfaceRequest) (id target failures : Nat) (h : Host) : Prop :=
  ∃ r, h.Wired built id target failures r

variable {h g : Host} {id target failures : Nat} {r : Registry} {built : List SurfaceRequest}

theorem Wired.uses (wired : h.Wired built id target failures r) : h.Uses id r :=
  ⟨wired.toStands.holds, wired.own, wired.unmarked⟩

theorem Wired.mono (wired : h.Wired built id target failures r) (request : SurfaceRequest) :
    h.Wired (request :: built) id target failures r where
  toStands := wired.toStands
  own := wired.own
  instruments name hd bound := by
    obtain ⟨i, found, kind, accounted⟩ := wired.instruments name hd bound
    exact ⟨i, found, kind, accounted.mono request⟩

/-- The host without what a standing registry does not depend on. -/
def groundwork (h : Host) : Host :=
  { registries := h.registries
    instruments := h.instruments
    series := h.series
    targets := h.targets
    marks := h.marks
    strays := h.strays }

theorem Wired.congr (wired : h.Wired built id target failures r)
    (same : g.groundwork = h.groundwork) : g.Wired built id target failures r where
  found := (congrArg (·.registries[id]?) same).trans wired.found
  unmarked := (congrArg (·.marks) same).trans wired.unmarked
  tidy := (congrArg (·.strays) same).trans wired.tidy
  attached := by
    rw [show g.targets = h.targets from congrArg (·.targets) same]
    exact wired.attached
  counts := by
    rw [show g.series = h.series from congrArg (·.series) same]
    exact wired.counts
  own := wired.own
  instruments := by
    rw [show g.instruments = h.instruments from congrArg (·.instruments) same]
    exact wired.instruments

theorem isWired_of_leaves {t : Action α} (leaves : Leaves groundwork t) :
    Preserves (IsWired built id target failures) t := by
  rintro h ⟨r, wired⟩
  exact ⟨r, wired.congr (leaves h)⟩

/-- Keeping things changes nothing that counts. -/
theorem isWired_of_keeps {t : Action α} (leaves : Leaves besidesKept t) :
    Preserves (IsWired built id target failures) t :=
  isWired_of_leaves (leaves.coarsen fun h h' same => by
    have coarse := congrArg groundwork same
    exact coarse)

/-! ## Single registrations -/

end Host

/-- An accepted offer is bound, unless the name was bound before. -/
theorem Registry.registry_of_register {r : Registry} {name : MetricName} {hd : Handle}
    {reg : Registration} (ok : r.register name (.instrument hd) = .ok reg) :
    reg.registry = r ∨ reg.registry = r.bind name hd := by
  obtain ⟨held, -, rfl⟩ | ⟨offered, same, -, -, rfl⟩ := register_cases ok
  · exact Or.inl rfl
  · cases same
    exact Or.inr rfl

theorem Registry.registry_of_obtain {r : Registry} {name : MetricName} {kind : InstrumentKind}
    {fresh : Nat} {reg : Registration} (ok : r.obtain kind name fresh = .ok reg) :
    reg.registry = r ∨ reg.registry = r.bind name ⟨fresh, kind⟩ := by
  obtain ⟨held, -, -, rfl⟩ | ⟨-, ok⟩ := obtain_cases ok
  · exact Or.inl rfl
  · exact registry_of_register ok

namespace Host

variable {h g : Host} {id target failures : Nat} {r : Registry} {built : List SurfaceRequest}

theorem Stands.rebind (stands : h.Stands id target failures r) {s : Registry}
    (same : s.exportName = r.exportName) (reports : Journal) :
    (h.rebind id s reports).Stands id target failures s where
  found := by
    unfold Host.rebind
    rw [Array.getElem?_modify, if_pos rfl, stands.found]
    rfl
  unmarked := stands.unmarked
  tidy := stands.tidy
  attached := stands.attached
  counts := by
    rw [same]
    exact stands.counts

/-- A new instrument that is accounted for is bound, or what was bound before stays. -/
theorem Wired.settle (wired : h.Wired built id target failures r) {name : MetricName}
    {i : Instrument} (accounted : Accounted built name i) {s : Registry} (own : s.Own)
    (binds : s = r ∨ s = r.bind name ⟨h.instruments.size, i.kind⟩) (reports : Journal) :
    ((h.withInstrument i).rebind id s reports).Wired built id target failures s where
  toStands := by
    have stands : (h.withInstrument i).Stands id target failures r :=
      ⟨wired.found, wired.unmarked, wired.tidy, wired.attached, wired.counts⟩
    refine stands.rebind ?_ reports
    rcases binds with rfl | rfl <;> rfl
  own := own
  instruments other hd bound := by
    have earlier (bound : r.bindings.get? other = some hd) :
        ∃ j, (h.instruments.push i)[hd.id]? = some j ∧ j.kind = hd.kind ∧
          Accounted built other j := by
      obtain ⟨j, found, kind, rest⟩ := wired.instruments other hd bound
      obtain ⟨inside, here⟩ := Array.getElem?_eq_some_iff.mp found
      exact ⟨j, by rw [Array.getElem?_push_lt inside, here], kind, rest⟩
    rcases binds with rfl | rfl
    · exact earlier bound
    · rw [Registry.get?_bindings_bind] at bound
      split at bound
      case isTrue same =>
        cases bound
        exact ⟨i, Array.getElem?_push_size, rfl, same ▸ accounted⟩
      case isFalse => exact earlier bound

/-- However the registry decides, the host stays wired. -/
theorem Wired.after_settled (wired : h.Wired built id target failures r) {name : MetricName}
    {i : Instrument} (accounted : Accounted built name i)
    {decided : Except RegistrationError Registration}
    (adds : ∃ reg, decided = .ok reg ∧ r.Adds name reg.bound reg.registry)
    (binds : ∀ reg, decided = .ok reg →
      reg.registry = r ∨ reg.registry = r.bind name ⟨h.instruments.size, i.kind⟩)
    {t : Action Handle} (ran : t h = settled id name decided (h.withInstrument i)) :
    IsWired built id target failures (t.after h) := by
  obtain ⟨reg, rfl, adds⟩ := adds
  refine ⟨reg.registry, ?_⟩
  rw [after_of_ok ran]
  exact wired.settle accounted adds.own (binds reg rfl) _

/-- An instrument is made, and offered for a name. -/
theorem registerNew_wired {name : MetricName} {i : Instrument} (label : OwnLabel name.name i.kind)
    (accounted : Accounted built name i) :
    Preserves (IsWired built id target failures)
      (do register id name (.instrument (← addInstrument i))) := by
  rintro h ⟨r, wired⟩
  have made : addInstrument i h = .ok ⟨h.instruments.size, i.kind⟩ (h.withInstrument i) := rfl
  refine wired.after_settled accounted (wired.own.register_adds label)
    (fun reg ok => Registry.registry_of_register ok) ?_
  rw [bind_of_ok made]
  exact register_run (wired.toStands.holds.withInstrument i) name _

theorem registerGauge_wired {name : MetricName} (label : OwnLabel name.name .gauge)
    (accounted : ∀ query guard, Accounted built name (.gauge query guard)) (query : Query)
    (message : String) :
    Preserves (IsWired built id target failures) (registerGauge id name query message) :=
  .get fun _ => registerNew_wired label (accounted _ _)

theorem counter_wired {name : MetricName} (label : OwnLabel name.name .counter)
    (accounted : Accounted built name (.counter Counter.start)) :
    Preserves (IsWired built id target failures) (counter id name) := by
  rintro h ⟨r, wired⟩
  exact wired.after_settled accounted (wired.own.obtain_adds label _)
    (fun reg ok => Registry.registry_of_obtain ok) (counter_run wired.toStands.holds name)

theorem histogram_wired {name : MetricName} (label : OwnLabel name.name .histogram)
    {biased : Value} (accounted : Accounted built name (.histogram (.standard biased))) :
    Preserves (IsWired built id target failures) (histogram id name biased) := by
  rintro h ⟨r, wired⟩
  exact wired.after_settled accounted (wired.own.obtain_adds label _)
    (fun reg ok => Registry.registry_of_obtain ok) (histogram_run wired.toStands.holds name biased)

/-! ## Surfaces and throughput -/

/-- The labels without a level that are bound beside those of the catalog. -/
def otherLabels : List (String × InstrumentKind) :=
  [(Surface.ingestTimeLabel, .histogram), (Surface.ingestWaitLabel, .histogram),
    (Surface.pendingLabel, .gauge), (Surface.liveLabel, .gauge), (Surface.iterMoveLabel, .counter),
    (Surface.iterSeekLabel, .counter), (Surface.iterNewLabel, .counter), (outgoingLabel, .gauge),
    (incomingLabel, .gauge)]

theorem otherLabels_own : ∀ l ∈ otherLabels, l ∈ plainLabels ∧ l.1 ∉ Catalog.labels := by
  decide +kernel

theorem standard_isUsual : (Instrument.histogram (.standard (.bool true))).IsUsual := by
  have bounds : (Histogram.standard (.bool true)).bounds = Histogram.microsecondBounds := rfl
  refine ⟨bounds, ?_, by decide +kernel⟩
  rw [Histogram.standard, List.length_map]

/-- Under a label that is none of the catalog's. -/
theorem accounted_name (scope : TableScope) {label : String} (other : label ∉ Catalog.labels)
    {i : Instrument} (usual : i.IsUsual) : Accounted built (scope.name label) i where
  named := ⟨scope, scope.table, rfl⟩
  usual := usual
  wired known := absurd known other

theorem registerCatalog_wired {request : SurfaceRequest} (mem : request ∈ built) {shard : Nat}
    {item : Item} (given : request.statistics[shard]? = some item) {entries : List CatalogEntry}
    (known : ∀ e ∈ entries, e ∈ Catalog.entries) :
    Preserves (IsWired built id target failures)
      (registerCatalog id request.scope shard item entries) := by
  induction entries with
  | nil => exact .pure _
  | cons entry rest ih =>
    have here := known entry List.mem_cons_self
    have label : OwnLabel (request.scope.shardName entry.label shard).name
        (Instrument.ofSource item entry.source).kind := by
      rw [Instrument.kind_ofSource]
      exact .catalog here
    have accounted : Accounted built (request.scope.shardName entry.label shard)
        (.ofSource item entry.source) := by
      refine ⟨⟨request.scope, request.scope.shardTable shard, rfl⟩, ?_, fun _ => ?_⟩
      · cases entry.source <;> trivial
      · exact ⟨request, mem, shard, item, entry, here, given, rfl, rfl⟩
    rw [registerCatalog, ← bind_assoc]
    exact .bind (registerNew_wired label accounted) fun _ =>
      ih fun e mem => known e (List.mem_cons_of_mem _ mem)

theorem registerShards_wired {request : SurfaceRequest} (mem : request ∈ built) (shard : Nat)
    {statistics : List Item}
    (given : ∀ k item, statistics[k]? = some item → request.statistics[shard + k]? = some item) :
    Preserves (IsWired built id target failures)
      (registerShards id request.scope shard statistics) := by
  induction statistics generalizing shard with
  | nil => exact .pure _
  | cons item rest ih =>
    rw [registerShards]
    refine .bind (registerCatalog_wired mem (given 0 item rfl) fun e among => among) fun _ => ?_
    refine ih (shard + 1) fun k other found => ?_
    have next := given (k + 1) other found
    have same : shard + 1 + k = shard + (k + 1) := by omega
    rwa [same]

theorem registerLevels_wired (request : SurfaceRequest) (levels : List Nat) :
    Preserves (IsWired built id target failures) (registerLevels request id levels) := by
  induction levels with
  | nil => exact .pure _
  | cons level rest ih =>
    rw [registerLevels]
    refine .bind (registerGauge_wired (.level level) (fun query guard => ?_) _ _) fun _ =>
      .bind ih fun _ => .pure _
    exact accounted_name request.scope (Surface.levelLabel_not_mem_labels level) trivial

theorem otherGauge_wired (scope : TableScope) {label : String} (mem : (label, .gauge) ∈ otherLabels)
    (query : Query) (message : String) : Preserves (IsWired built id target failures)
      (registerGauge id (scope.name label) query message) := by
  obtain ⟨plain, other⟩ := otherLabels_own _ mem
  exact registerGauge_wired (.plain plain) (fun _ _ => accounted_name scope other trivial) query
    message

/-- A build binds what is accounted for by its request. -/
theorem buildSurface_wired {request : SurfaceRequest} (mem : request ∈ built)
    (registry : request.registry = .registry id) :
    Preserves (IsWired built id target failures) (buildSurface request) := by
  have written {label : String} (mem : (label, .counter) ∈ otherLabels) :
      Preserves (IsWired built id target failures) (counter id (request.scope.name label)) := by
    obtain ⟨plain, other⟩ := otherLabels_own _ mem
    exact counter_wired (.plain plain) (accounted_name request.scope other trivial)
  have timed {label : String} (mem : (label, .histogram) ∈ otherLabels) :
      Preserves (IsWired built id target failures)
        (histogram id (request.scope.name label) (.bool true)) := by
    obtain ⟨plain, other⟩ := otherLabels_own _ mem
    exact histogram_wired (.plain plain) (accounted_name request.scope other standard_isUsual)
  have same : surfaceRegistry request = pure id := by
    rw [surfaceRegistry, registry]
    rfl
  rw [buildSurface, same, pure_bind]
  refine .bind (registerShards_wired mem 0 fun k item found => by rwa [Nat.zero_add]) fun _ => ?_
  refine .bind (timed (by simp [otherLabels])) fun _ => ?_
  refine .bind (timed (by simp [otherLabels])) fun _ => ?_
  refine .bind (.ofExcept _) fun levels => ?_
  refine .bind (registerLevels_wired request _) fun _ => ?_
  refine .bind (otherGauge_wired request.scope (by simp [otherLabels]) _ _) fun _ => ?_
  refine .bind (otherGauge_wired request.scope (by simp [otherLabels]) _ _) fun _ => ?_
  refine .bind (written (by simp [otherLabels])) fun _ => ?_
  refine .bind (written (by simp [otherLabels])) fun _ => ?_
  refine .bind (written (by simp [otherLabels])) fun _ => ?_
  exact .bind (isWired_of_leaves fun _ => rfl) fun _ => isWired_of_leaves fun _ => rfl

/-- Asking a source of throughput changes nothing that counts. -/
theorem rateQuery_wired (flow : Item) (d : Direction) :
    Preserves (IsWired built id target failures) (rateQuery flow d) := by
  refine .bind (isWired_of_keeps (Item.require_leaves flow _)) fun _ =>
    .bind (isWired_of_keeps (Item.mark?_leaves flow _)) fun marked => ?_
  split <;> exact .pure _

theorem registryAmong_of_wired (wired : h.Wired built id target failures r) :
    ∃ journal, registryAmong (.registry id) h = .ok id { h with journal := journal } := by
  have container : (Item.registry id).isContainer h = .ok true h := rfl
  rw [registryAmong, bind_of_ok container, if_neg (by decide)]
  dsimp only
  rw [bind_of_ok (isBound_run wired.uses.toHolds outgoingName),
    bind_of_ok (isBound_run wired.uses.toHolds incomingName)]
  split
  · exact ⟨_, rfl⟩
  · exact ⟨h.journal, rfl⟩

theorem registerThroughput_wired (flow : Item) :
    Preserves (IsWired built id target failures) (registerThroughput (.registry id) flow) := by
  rintro h ⟨r, wired⟩
  obtain ⟨journal, ran⟩ := registryAmong_of_wired wired
  rw [registerThroughput, after_bind_of_ok ran]
  have both : Preserves (IsWired built id target failures) (do
      let outgoing ← registerGauge id outgoingName (← rateQuery flow .outgoing)
        "Failed to get outgoing throughput"
      let incoming ← registerGauge id incomingName (← rateQuery flow .incoming)
        "Failed to get incoming throughput"
      return (outgoing, incoming)) :=
    .bind (rateQuery_wired _ _) fun _ =>
      .bind (otherGauge_wired .all (by simp [otherLabels]) _ _) fun _ =>
        .bind (rateQuery_wired _ _) fun _ =>
          .bind (otherGauge_wired .all (by simp [otherLabels]) _ _) fun _ => .pure _
  exact both _ ⟨r, wired.congr rfl⟩

/-! ## Releases -/

end Host

theorem Registry.exportName_remove (r : Registry) (name : MetricName) :
    (r.remove name).1.exportName = r.exportName := by
  unfold remove
  split
  · rfl
  · dsimp only
    split <;> rfl

namespace Host

variable {h g : Host} {id target failures : Nat} {r : Registry} {built : List SurfaceRequest}

/-- Less may be bound. -/
theorem Wired.restrict (wired : h.Wired built id target failures r) {s : Registry} (own : s.Own)
    (same : s.exportName = r.exportName)
    (less : ∀ name hd, s.bindings.get? name = some hd → r.bindings.get? name = some hd)
    (reports : Journal) : (h.rebind id s reports).Wired built id target failures s where
  toStands := wired.toStands.rebind same reports
  own := own
  instruments name hd bound := wired.instruments name hd (less name hd bound)

theorem remove_wired (name : MetricName) :
    Preserves (IsWired built id target failures) (remove id name) := by
  rintro h ⟨r, wired⟩
  rw [after_of_ok (remove_run wired.toStands.holds wired.own.exact name)]
  exact ⟨_, wired.restrict (wired.own.remove name) (r.exportName_remove name)
    (fun _ _ => wired.own.exact.get?_of_remove) _⟩

theorem removeAll_wired (names : List MetricName) :
    Preserves (IsWired built id target failures) (removeAll id names) := by
  induction names with
  | nil => exact .pure _
  | cons name rest ih =>
    rw [removeAll]
    exact .bind (remove_wired name) fun _ => .bind ih fun _ => .pure _

theorem releaseSurface_wired (wired : h.Wired built id target failures r) {k : Nat} {s : Surface}
    (found : h.surfaces[k]? = some s) (registry : s.registry = id) :
    IsWired built id target failures ((releaseSurface k).after h) := by
  have uses := wired.uses
  have known : getSurface k h = .ok s h := getSurface_run found
  have removed : removeNames k h = removeAll id s.identities h := by
    rw [removeNames, bind_of_ok known, bind_of_ok (Item.mark?_run (uses.mark? _ _)),
      bind_of_ok (Item.markedValue?_run (uses.mark? _ _))]
    dsimp only
    rw [pure_bind, bind_of_ok (Item.mark?_run (uses.mark? _ _)), registry]
    rfl
  have unbound : IsWired built id target failures ((removeNames k).after h) := by
    rw [after, removed]
    exact removeAll_wired s.identities h ⟨r, wired⟩
  have owned : Preserves (IsWired built id target failures)
      (requireOwn (.surface k) "table" "keyspace") := by
    rintro h ⟨r, wired⟩
    rw [after_of_ok (requireOwn_run _ (wired.uses.mark? _ _))]
    exact ⟨r, wired⟩
  have word (part own : String) :
      Preserves (IsWired built id target failures) (tableWord k part own) := by
    rintro h ⟨r, wired⟩
    rw [after_of_ok (tableWord_run wired.uses.unmarked k part own)]
    exact ⟨r, wired⟩
  rw [releaseSurface, after_bind_of_ok (Item.requireUnmarked_run (uses.mark? _ _))]
  exact Preserves.after_bind unbound fun _ =>
    .bind owned fun _ => .bind (isWired_of_keeps (.look _)) fun _ =>
      .bind (word _ _) fun _ => .bind (word _ _) fun _ =>
        .bind (isWired_of_leaves fun _ => rfl) fun _ => .pure _

/-! ## The process goes on -/

/-- Between the two hosts nobody touched the registry, its target or the counter of failures but to
count, and instruments were written by their owners at most. -/
structure Spares (id target : Nat) (h g : Host) : Prop where
  unmarked : g.marks = []
  tidy : g.strays = []
  registry : g.registries[id]? = h.registries[id]?
  target_eq : g.targets[target]? = h.targets[target]?
  failures : ∀ (k : Nat) (s : LabelledSeries) (name : String), h.series[k]? = some s →
    s.CountsFailures name → ∃ s', g.series[k]? = some s' ∧ s'.CountsFailures name
  instruments : ∀ (k : Nat) (i : Instrument), h.instruments[k]? = some i →
    ∃ j, g.instruments[k]? = some j ∧ i.Rewritten j

theorem Wired.spare (wired : h.Wired built id target failures r) (spares : Spares id target h g) :
    g.Wired built id target failures r where
  found := spares.registry.trans wired.found
  unmarked := spares.unmarked
  tidy := spares.tidy
  attached := by
    rw [spares.target_eq]
    exact wired.attached
  counts := by
    obtain ⟨s, found, counts⟩ := wired.counts
    exact spares.failures failures s _ found counts
  own := wired.own
  instruments name hd bound := by
    obtain ⟨i, found, kind, accounted⟩ := wired.instruments name hd bound
    obtain ⟨j, there, rewritten⟩ := spares.instruments hd.id i found
    exact ⟨j, there, rewritten.kind_eq.trans kind, accounted.rewritten rewritten⟩

/-- Polls and scrapes spare every registry. -/
theorem Quiet.spares (quiet : Quiet h g) (unmarked : h.marks = []) (tidy : h.strays = [])
    (id target : Nat) : Spares id target h g where
  unmarked := quiet.marks_eq.trans unmarked
  tidy := quiet.strays_eq.trans tidy
  registry := by rw [quiet.registries_eq]
  target_eq := by rw [quiet.targets_eq]
  failures := quiet.failures
  instruments k i found := ⟨i, by rw [quiet.instruments_eq, found], .same i⟩

theorem Spares.refl (unmarked : h.marks = []) (tidy : h.strays = []) (id target : Nat) :
    Spares id target h h := (Quiet.refl h).spares unmarked tidy id target

theorem Spares.congr (spares : Spares id target h g) {k : Host}
    (same : k.groundwork = g.groundwork) : Spares id target h k where
  unmarked := (congrArg (·.marks) same).trans spares.unmarked
  tidy := (congrArg (·.strays) same).trans spares.tidy
  registry := (congrArg (·.registries[id]?) same).trans spares.registry
  target_eq := (congrArg (·.targets[target]?) same).trans spares.target_eq
  failures := by
    rw [show k.series = g.series from congrArg (·.series) same]
    exact spares.failures
  instruments := by
    rw [show k.instruments = g.instruments from congrArg (·.instruments) same]
    exact spares.instruments

/-! ## Runs -/

/-- A registry that stands on its target without a name was used for the surfaces of these requests,
the latest first, for releases and for the gauges of throughput. Of these surfaces, those of the
last argument are still there: since they were built, none of their scope was released. -/
inductive Serves (id target : Nat) : Host → List SurfaceRequest → List SurfaceRequest → Prop where
  | start {h : Host} {failures : Nat} {exportName : Value}
      (stands : h.Stands id target failures { exportName := exportName }) : Serves id target h [] []
  | build {h h' : Host} {built there : List SurfaceRequest} {request : SurfaceRequest}
      {levels k : Nat} (serves : Serves id target h built there)
      (registry : request.registry = .registry id)
      (counted : request.settings.bind levelCount = .ok levels)
      (ran : buildSurface request h = .ok k h') :
      Serves id target h' (request :: built) (request :: there)
  | release {h : Host} {built there left : List SurfaceRequest} {k : Nat} {s : Surface}
      (serves : Serves id target h built there) (found : h.surfaces[k]? = some s)
      (builtIn : BuiltIn id s)
      (others : ∀ request ∈ left, request ∈ there ∧ request.scope ≠ s.scope) :
      Serves id target ((releaseSurface k).after h) built left
  | throughput {h : Host} {built there : List SurfaceRequest} {flow : Item}
      (serves : Serves id target h built there) (source : h.IsSource flow) :
      Serves id target ((registerThroughput (.registry id) flow).after h) built there
  /-- Whatever else the process does, as long as it spares the registry. -/
  | elsewhere {h g : Host} {built there : List SurfaceRequest}
      (serves : Serves id target h built there) (spares : Spares id target h g) :
      Serves id target g built there

/-- All names of the surfaces for these requests are bound. -/
def AllBound (there : List SurfaceRequest) (r : Registry) : Prop :=
  ∀ request ∈ there, ∃ levels, request.settings.bind levelCount = .ok levels ∧
    ∀ name ∈ Surface.nameList request.scope request.statistics.length levels, name ∈ r.names

theorem Wired.registry_eq {s : Registry} (wired : h.Wired built id target failures r)
    (uses : h.Uses id s) : s = r := by
  have held := uses.held
  rw [wired.found] at held
  exact (Option.some.inj held).symm

theorem AllBound.mono {there : List SurfaceRequest} {s : Registry} (bound : AllBound there r)
    (more : ∀ name ∈ r.names, name ∈ s.names) : AllBound there s := by
  intro request mem
  obtain ⟨levels, counted, names⟩ := bound request mem
  exact ⟨levels, counted, fun name among => more name (names name among)⟩

/-- A release takes away no name of another scope. -/
theorem AllBound.release {there left : List SurfaceRequest} {s : Registry} {gone : Surface}
    (bound : AllBound there r) (builtIn : BuiltIn id gone)
    (others : ∀ request ∈ left, request ∈ there ∧ request.scope ≠ gone.scope)
    (names_iff : ∀ name, name ∈ s.names ↔ name ∈ r.names ∧ name ∉ gone.identities) :
    AllBound left s := by
  intro request mem
  obtain ⟨mem, other⟩ := others request mem
  obtain ⟨levels, counted, names⟩ := bound request mem
  obtain ⟨shards, count, own⟩ := builtIn.names_eq
  refine ⟨levels, counted, fun name among =>
    (names_iff name).mpr ⟨names name among, fun taken => ?_⟩⟩
  rw [builtIn.identities_eq, own] at taken
  exact other (Surface.scope_eq_of_mem_nameList among taken)

namespace Wired

variable {h' : Host} {there left : List SurfaceRequest}

/-- After a build the registry is wired for one surface more, and its names are bound, too. -/
theorem build (wired : h.Wired built id target failures r) (bound : AllBound there r)
    {request : SurfaceRequest} {levels k : Nat} (registry : request.registry = .registry id)
    (counted : request.settings.bind levelCount = .ok levels)
    (ran : buildSurface request h = .ok k h') :
    ∃ t, h'.Wired (request :: built) id target failures t ∧ AllBound (request :: there) t := by
  obtain ⟨s, _, t, ran', -, builtFor, -, uses, names⟩ :=
    buildSurface_run wired.uses registry counted
  rw [ran] at ran'
  cases ran'
  obtain ⟨r', wired'⟩ := buildSurface_wired List.mem_cons_self registry h ⟨r, wired.mono request⟩
  rw [after_of_ok ran] at wired'
  obtain rfl := wired'.registry_eq uses
  refine ⟨t, wired', List.forall_mem_cons.mpr ⟨⟨levels, counted, fun name mem => ?_⟩,
    bound.mono fun name mem => (names name).mpr (Or.inl mem)⟩⟩
  rw [names, builtFor.names_eq]
  exact Or.inr mem

/-- After a release the surfaces of other scopes are still there. -/
theorem release (wired : h.Wired built id target failures r) (bound : AllBound there r) {k : Nat}
    {s : Surface} (found : h.surfaces[k]? = some s) (builtIn : BuiltIn id s)
    (others : ∀ request ∈ left, request ∈ there ∧ request.scope ≠ s.scope) :
    ∃ t, ((releaseSurface k).after h).Wired built id target failures t ∧ AllBound left t := by
  obtain ⟨h', ran, rid, -⟩ := releaseSurface_run wired.uses.clear found builtIn.registry_eq
  have uses := rid.uses (wired.own.removeAll s.identities)
  obtain ⟨r', wired'⟩ := releaseSurface_wired wired found builtIn.registry_eq
  rw [after_of_ok ran] at wired' ⊢
  obtain rfl := wired'.registry_eq uses
  refine ⟨_, wired', bound.release builtIn others fun name => ?_⟩
  rw [wired.own.exact.names_removeAll, List.mem_filter, decide_eq_true_eq]

theorem throughput (wired : h.Wired built id target failures r) (bound : AllBound there r)
    {flow : Item} (source : h.IsSource flow) :
    ∃ t, ((registerThroughput (.registry id) flow).after h).Wired built id target failures t ∧
      AllBound there t := by
  obtain ⟨outgoing, incoming, h', t, ran, binds, uses, -⟩ := registerThroughput_run wired.uses source
  obtain ⟨r', wired'⟩ := registerThroughput_wired flow h ⟨r, wired⟩
  rw [after_of_ok ran] at wired' ⊢
  obtain rfl := wired'.registry_eq uses
  exact ⟨t, wired', bound.mono fun name mem => (binds.names_iff name).mpr (Or.inl mem)⟩

end Wired

/-- However the registry was used, it is wired for its surfaces, and the names of those that are
still there are bound. -/
theorem Serves.wired {there : List SurfaceRequest} (serves : Serves id target h built there) :
    ∃ failures r, h.Wired built id target failures r ∧ AllBound there r := by
  induction serves with
  | start stands =>
    refine ⟨_, _, ⟨stands, Registry.own_empty _, fun name hd bound => ?_⟩, List.forall_mem_nil _⟩
    cases OrderedMap.mem_of_get? bound
  | build _ registry counted ran ih =>
    obtain ⟨failures, r, wired, bound⟩ := ih
    exact ⟨failures, wired.build bound registry counted ran⟩
  | release _ found builtIn others ih =>
    obtain ⟨failures, r, wired, bound⟩ := ih
    exact ⟨failures, wired.release bound found builtIn others⟩
  | throughput _ source ih =>
    obtain ⟨failures, r, wired, bound⟩ := ih
    exact ⟨failures, wired.throughput bound source⟩
  | elsewhere _ spares ih =>
    obtain ⟨failures, r, wired, bound⟩ := ih
    exact ⟨failures, r, wired.spare spares, bound⟩

/-- Whatever its statistics report from now on, the registry serves its surfaces as before. -/
theorem Serves.reporting {there : List SurfaceRequest} (serves : Serves id target h built there)
    (statistics : Array Statistics) :
    Serves id target { h with statistics := statistics } built there := by
  obtain ⟨failures, r, wired, -⟩ := serves.wired
  exact .elsewhere serves ((Spares.refl wired.unmarked wired.tidy id target).congr rfl)

end Host

end StorageMetrics
