import Mathlib.Data.List.Perm.Subperm
import StorageMetrics.Proofs.Host.Attaching
import StorageMetrics.Proofs.Host.Serving

/-
  Scrapes of registries that serve surfaces. Such a registry is read member by member, from hosts
  that differ in nothing that members tell, and its target shows what the members assemble to beside
  the family of the counter of failures (`Wired.scraped`). What is read of a member is what
  instruments of its kind report (`Scraped.usual`), so no sample of the scrape is there twice, and
  if all reads go through all series are there (`scrape_shows_each_series_once`).
-/

namespace StorageMetrics

open StorageMetrics.Action

theorem flatMap_sublist {α β : Type} {f g : α → List β} {xs : List α}
    (each : ∀ x ∈ xs, (f x).Sublist (g x)) : (xs.flatMap f).Sublist (xs.flatMap g) := by
  induction xs with
  | nil => exact .refl _
  | cons x rest ih =>
    rw [List.flatMap_cons, List.flatMap_cons]
    exact (each x List.mem_cons_self).append (ih fun y mem => each y (List.mem_cons_of_mem _ mem))

/-- The counter of failures has one sample for each of its gauges. -/
theorem LabelledSeries.CountsFailures.keys_of_family {exportName : Value} {s : LabelledSeries}
    (counts : s.CountsFailures (Host.failureCounterName exportName)) :
    ∃ gauges : List String, gauges.Nodup ∧
      s.family.samples.map Sample.key = failureKeys exportName gauges := by
  obtain ⟨gauges, nodup, keys⟩ := counts.keys_eq
  refine ⟨gauges, nodup, ?_⟩
  have labelled : s.family.samples.map Sample.key =
      s.children.keys.map fun values => (s.name ++ "_total", ["gauge"].zip values) := by
    unfold LabelledSeries.family OrderedMap.keys
    dsimp only
    rw [counts.labelNames_eq, counts.isCounter, List.map_map, List.map_map]
    rfl
  rw [labelled, keys, counts.name_eq, List.map_map]
  rfl

/-! ## What instruments report -/

/-- Of a snapshot three quantiles are told, or none. -/
theorem Reading.ofSnapshot_isUsual {s : Option Snapshot} {reading : Reading}
    (told : Reading.ofSnapshot s = .ok reading) : reading.IsUsual := by
  unfold ofSnapshot at told
  split at told
  · cases told
  · split at told
    · cases told
      split
      · rfl
      · trivial
    · cases told

namespace Host

variable {h g k : Host} {id target failures : Nat} {r : Registry} {built : List SurfaceRequest}

/-- A histogram that its owner writes is read as it stands; all others report what is usual. -/
theorem read_tells (unmarked : h.marks = []) {hd : Handle} {i : Instrument}
    (here : h.instruments[hd.id]? = some i) {reading : Reading} (ran : read hd h = .ok reading g) :
    (∃ contents, i = .histogram contents ∧ reading = .distribution contents) ∨
      ((∀ contents, reading ≠ .distribution contents) ∧ reading.IsUsual) := by
  by_cases written : ∃ contents, i = .histogram contents
  · obtain ⟨contents, rfl⟩ := written
    rw [read_histogram unmarked here] at ran
    cases ran
    exact Or.inl ⟨contents, rfl, rfl⟩
  · have other : i.kind ≠ .histogram := by
      intro same
      cases i <;> first | exact written ⟨_, rfl⟩ | cases same
    rw [read_of_glance here other] at ran
    obtain ⟨shown, _, glanced, ran⟩ := ok_of_bind ran
    refine Or.inr ?_
    cases shown with
    | value v =>
      obtain ⟨x, _, -, ran⟩ := ok_of_bind ran
      cases ran
      exact ⟨fun _ => Reading.noConfusion, trivial⟩
    | count n =>
      cases ran
      exact ⟨fun _ => Reading.noConfusion, trivial⟩
    | histogram contents =>
      have histogram := glance_series here glanced
      cases i <;> first | exact absurd rfl other | cases histogram
    | snapshot s =>
      have told := ok_of_ofExcept ran
      refine ⟨fun contents same => ?_, Reading.ofSnapshot_isUsual told⟩
      have series := Reading.ofSnapshot_series told
      rw [same] at series
      cases series

/-- The instruments of surfaces report what is usual. -/
theorem read_isUsual (unmarked : h.marks = []) {hd : Handle} {i : Instrument}
    (here : h.instruments[hd.id]? = some i) (usual : i.IsUsual) {reading : Reading}
    (ran : read hd h = .ok reading g) : reading.series = i.kind.series ∧ reading.IsUsual := by
  obtain ⟨j, found, series⟩ := read_series ran
  obtain rfl : j = i := Option.some.inj (found.symm.trans here)
  refine ⟨series, ?_⟩
  obtain ⟨contents, rfl, rfl⟩ | ⟨-, told⟩ := read_tells unmarked here ran
  · exact usual
  · exact told

/-- What is told of a member is the reading of its instrument. -/
theorem answer_readMember (unmarked : h.marks = []) (id : Nat) {name : MetricName} {table : String}
    (located : name.table? = some table) (hd : Handle) :
    ((readMember id name hd).answer h).map (·.2) = (read hd).answer h := by
  unfold answer
  rw [readMember_unmarked unmarked id located]
  cases ran : read hd h with
  | ok reading g =>
    rw [bind_of_ok ran]
    rfl
  | error e g =>
    rw [bind_of_error ran]
    rfl

/-! ## Scrapes -/

/-- A scrape of the registry's target, with what was read of each member. -/
structure Scraped (id target : Nat) (h : Host) (r : Registry) (ms : List Member) (t : FamilyTable)
    (s : LabelledSeries) (families : List Family) (h' : Host) : Prop where
  ran : scrape target h = .ok families h'
  read : readMembers id r.bindings.entries h = .ok ms h'
  bindings : ms.map Member.binding = r.bindings.entries
  assembled : r.Assembled ms t
  counts : s.CountsFailures (failureCounterName r.exportName)
  families_eq : families = t.values ++ [s.family] ∨ families = s.family :: t.values
  quiet : Quiet h h'
  outcomes : ∀ m ∈ ms, ∃ g, Quiet h g ∧ m.outcome = (Host.read m.handle).answer g

namespace Wired

theorem ownName (wired : h.Wired built id target failures r) {name : MetricName} {hd : Handle}
    (bound : r.bindings.get? name = some hd) : OwnName name hd.kind where
  label := wired.own.labels name hd bound
  built := by
    obtain ⟨i, -, -, accounted⟩ := wired.instruments name hd bound
    exact accounted.named

theorem presents (wired : h.Wired built id target failures r) : h.Presents id r := by
  refine wired.toStands.holds.presents wired.unmarked fun name hd bound i found => ?_
  obtain ⟨j, there, kind, -⟩ := wired.instruments name hd bound
  obtain rfl : j = i := Option.some.inj (there.symm.trans found)
  exact kind

theorem bound_of_mem (wired : h.Wired built id target failures r) {b : MetricName × Handle}
    (mem : b ∈ r.bindings.entries) : r.bindings.get? b.1 = some b.2 :=
  wired.own.exact.get?_of_mem mem

/-- No series of bound instruments comes twice, nor one of the counter of failures. -/
theorem expected_nodup (wired : h.Wired built id target failures r) {gauges : List String}
    (nodup : gauges.Nodup) : ((r.bindings.entries.flatMap fun b => r.seriesOf b.1 b.2.kind) ++
      failureKeys r.exportName gauges).Nodup := by
  have own : ∀ b ∈ r.bindings.entries, OwnName b.1 b.2.kind :=
    fun b mem => wired.ownName (wired.bound_of_mem mem)
  refine List.nodup_append.mpr ⟨Registry.flatMap_seriesOf_nodup own wired.own.exact.names_nodup,
    failureKeys_nodup _ nodup, fun key mem key' counted same => ?_⟩
  obtain ⟨b, -, mem⟩ := List.mem_flatMap.mp mem
  exact Registry.not_mem_failureKeys mem (same ▸ counted)

/-- The target of a registry that serves surfaces is scraped, whatever its members report. -/
theorem scraped (wired : h.Wired built id target failures r) :
    ∃ ms t s families h', Scraped id target h r ms t s families h' := by
  have bound : ∀ b ∈ r.bindings.entries, r.bindings.get? b.1 = some b.2 :=
    fun b mem => wired.bound_of_mem mem
  have named : ∀ b ∈ r.bindings.entries, ¬ r.Nameless b.1 b.2 := fun b mem =>
    Registry.not_nameless (wired.ownName (bound b mem)).label
  obtain ⟨ms, h', t, wereRead, bindings, -, -, assembled, presents', scraped⟩ :=
    scrapeMembers_run wired.presents bound named Registry.assembled_nil
  obtain ⟨ms', g, wereRead', quiet, -, outcomes⟩ :=
    readMembers_quiet wired.unmarked id r.bindings.entries
  rw [wereRead] at wereRead'
  cases wereRead'
  obtain ⟨s, families, counts, ran, order⟩ :=
    wired.toStands.scrape (scrapeRegistry_of_members wired.presents presents' scraped) quiet
  refine ⟨ms, t, s, families, h', ran, wereRead, bindings, assembled, counts, order, quiet, ?_⟩
  intro m mem
  obtain ⟨g, quiet, outcome⟩ := outcomes m mem
  have own := wired.ownName (bound m.binding (bindings ▸ List.mem_map_of_mem mem))
  obtain ⟨scope, table, built⟩ := own.built
  have located : m.name.table? = some table := by
    rw [show m.name = m.binding.1 from rfl, built]
    exact scope.table?_build _ table
  refine ⟨g, quiet, outcome.trans ?_⟩
  exact answer_readMember (quiet.marks_eq.trans wired.unmarked) id located m.handle

end Wired

namespace Scraped

variable {ms : List Member} {t : FamilyTable} {s : LabelledSeries} {families : List Family}

theorem bound (scraped : Scraped id target h r ms t s families g)
    (wired : h.Wired built id target failures r) {m : Member} (mem : m ∈ ms) :
    r.bindings.get? m.name = some m.handle :=
  wired.bound_of_mem (b := m.binding) (scraped.bindings ▸ List.mem_map_of_mem mem)

theorem ownName (scraped : Scraped id target h r ms t s families g)
    (wired : h.Wired built id target failures r) {m : Member} (mem : m ∈ ms) :
    OwnName m.name m.handle.kind := wired.ownName (scraped.bound wired mem)

/-- What is read of a member is what instruments of its kind report. -/
theorem usual (scraped : Scraped id target h r ms t s families g)
    (wired : h.Wired built id target failures r) {m : Member} (mem : m ∈ ms) : m.IsUsual := by
  intro reading read
  obtain ⟨k, quiet, outcome⟩ := scraped.outcomes m mem
  obtain ⟨i, found, kind, accounted⟩ := wired.instruments _ _ (scraped.bound wired mem)
  rw [← quiet.instruments_eq] at found
  rw [outcome] at read
  unfold answer at read
  cases ran : Host.read m.handle k with
  | error e k' =>
    rw [ran] at read
    cases read
  | ok told k' =>
    rw [ran] at read
    cases read
    rw [← kind]
    exact read_isUsual (quiet.marks_eq.trans wired.unmarked) found accounted.usual ran

/-- The samples of the members, and those of the counter of failures. -/
theorem samples_perm (scraped : Scraped id target h r ms t s families g)
    (wired : h.Wired built id target failures r) :
    (families.flatMap (·.samples)).Perm
      ((ms.flatMap fun m => (r.familyFor m).samplesOf m) ++ s.family.samples) := by
  have members := scraped.assembled.samples_perm (wired.own.exact.agree scraped.bindings)
  rcases scraped.families_eq with rfl | rfl
  · rw [List.flatMap_append, List.flatMap_singleton]
    exact members.append_right _
  · rw [List.flatMap_cons]
    exact List.perm_append_comm.trans (members.append_right _)

theorem series_of_members (scraped : Scraped id target h r ms t s families g) :
    (r.bindings.entries.flatMap fun b => r.seriesOf b.1 b.2.kind) =
      ms.flatMap fun m => r.seriesOf m.name m.handle.kind := by
  rw [← scraped.bindings, List.flatMap_map]
  rfl

/-- No two families are called alike. -/
theorem names_nodup (scraped : Scraped id target h r ms t s families g)
    (wired : h.Wired built id target failures r) : (families.map (·.name)).Nodup := by
  have own : ∀ m ∈ ms, OwnName m.name m.handle.kind := fun m mem => scraped.ownName wired mem
  have keys := scraped.assembled.names_eq own
  have other : s.family.name ∉ t.values.map (·.name) := by
    rw [keys]
    intro mem
    obtain ⟨m, among, same⟩ := scraped.assembled.mem_keys_iff.mp mem
    rw [show s.family.name = failureCounterName r.exportName from scraped.counts.name_eq] at same
    exact Registry.family_ne_failures (own m among).label same
  have nodup : (s.family.name :: t.values.map (·.name)).Nodup := by
    rw [keys] at other ⊢
    exact List.nodup_cons.mpr ⟨other, scraped.assembled.keys_nodup⟩
  rcases scraped.families_eq with rfl | rfl
  · rw [List.map_append]
    exact (List.perm_append_comm.nodup_iff).mp nodup
  · exact nodup

/-- Every sample is of one of the series that are expected, and none of these comes twice. -/
theorem keys_subperm (scraped : Scraped id target h r ms t s families g)
    (wired : h.Wired built id target failures r) {gauges : List String}
    (counted : s.family.samples.map Sample.key = failureKeys r.exportName gauges) :
    ((families.flatMap (·.samples)).map Sample.key).Subperm
        ((r.bindings.entries.flatMap fun b => r.seriesOf b.1 b.2.kind) ++
          failureKeys r.exportName gauges) ∧
      ((∀ m ∈ ms, m.isRead = true) → ((families.flatMap (·.samples)).map Sample.key).Perm
        ((r.bindings.entries.flatMap fun b => r.seriesOf b.1 b.2.kind) ++
          failureKeys r.exportName gauges)) := by
  have own : ∀ m ∈ ms, OwnName m.name m.handle.kind := fun m mem => scraped.ownName wired mem
  have usual : ∀ m ∈ ms, m.IsUsual := fun m mem => scraped.usual wired mem
  have keys := (scraped.samples_perm wired).map Sample.key
  have split : (ms.flatMap fun m => (r.familyFor m).samplesOf m).map Sample.key =
      ms.flatMap fun m => ((r.familyFor m).samplesOf m).map Sample.key := List.map_flatMap
  rw [List.map_append, counted, split] at keys
  rw [scraped.series_of_members]
  constructor
  · refine keys.subperm.trans (List.Sublist.subperm ?_)
    exact (flatMap_sublist fun m mem => Member.keys_sublist (own m mem) (usual m mem)).append_right _
  · intro allRead
    rw [List.flatMap_congr fun m mem => Member.keys_eq (r := r) (own m mem) (usual m mem)
      (allRead m mem)] at keys
    exact keys

end Scraped

/-- Every bound instrument of the registry is read without a failure. -/
def readsAll (id : Nat) (h : Host) : Bool :=
  match h.registries[id]? with
  | some a =>
    match readMembers id a.registry.bindings.entries h with
    | .ok ms _ => ms.all Member.isRead
    | .error _ _ => false
  | none => false

theorem Scraped.isRead_of_readsAll {ms : List Member} {t : FamilyTable} {s : LabelledSeries}
    {families : List Family} (scraped : Scraped id target h r ms t s families g)
    (stands : h.Stands id target failures r) (reads : readsAll id h = true) :
    ∀ m ∈ ms, m.isRead = true := by
  unfold readsAll at reads
  rw [stands.found] at reads
  dsimp only at reads
  rw [scraped.read] at reads
  exact List.all_eq_true.mp reads

/-- A registry that serves surfaces shows, on a target of its own, families of different names, and
samples of which no two have one name and one set of labels, whatever comes of the reads. If all
reads go through, the samples are the series of all bound instruments, by their kinds, and one for
each gauge that has failed. -/
theorem scrape_shows_each_series_once {there : List SurfaceRequest}
    (serves : Serves id target h built there) :
    ∃ failures r families h', h.Stands id target failures r ∧ AllBound there r ∧
      scrape target h = .ok families h' ∧ (families.map (·.name)).Nodup ∧
      ((families.flatMap (·.samples)).Pairwise fun s s' =>
        ¬ (s.name = s'.name ∧ s.labels.Perm s'.labels)) ∧
      (readsAll id h = true → ∃ gauges : List String, gauges.Nodup ∧
        ((families.flatMap (·.samples)).map Sample.key).Perm
          ((r.bindings.entries.flatMap fun b => r.seriesOf b.1 b.2.kind) ++
            failureKeys r.exportName gauges)) := by
  obtain ⟨failures, r, wired, bound⟩ := serves.wired
  obtain ⟨ms, t, s, families, h', scraped⟩ := wired.scraped
  obtain ⟨gauges, nodup, counted⟩ := scraped.counts.keys_of_family
  obtain ⟨subperm, perm⟩ := scraped.keys_subperm wired counted
  refine ⟨failures, r, families, h', wired.toStands, bound, scraped.ran, scraped.names_nodup wired,
    ?_, fun reads => ⟨gauges, nodup, perm (scraped.isRead_of_readsAll wired.toStands reads)⟩⟩
  -- every key has its labels in order, so that equal sets of labels are equal lists
  have ordered : ∀ s ∈ families.flatMap (·.samples), InOrder s.labels := by
    intro s mem
    rcases List.mem_append.mp (subperm.subset (List.mem_map_of_mem mem)) with ofMember | ofCounter
    · obtain ⟨b, -, mem⟩ := List.mem_flatMap.mp ofMember
      exact Registry.inOrder_of_mem_seriesOf mem
    · exact inOrder_of_mem_failureKeys ofCounter
  have single : ((families.flatMap (·.samples)).map Sample.key).Nodup := by
    obtain ⟨keys, same, among⟩ := subperm
    exact same.nodup_iff.mp ((wired.expected_nodup nodup).sublist among)
  refine (List.pairwise_map.mp single).imp_of_mem fun {s s'} mem mem' differ => ?_
  rintro ⟨names, labels⟩
  exact differ (Prod.ext names ((ordered s mem).eq_of_perm (ordered s' mem') labels))

/-! ## A first scrape -/

/-- The first registry of a process stands on its target. -/
theorem started_stands (exportName : Value) :
    (started exportName).Stands 0 0 0 { exportName := exportName } := by
  have untouched : (addTarget.after {}).targets[0]? = some [] := rfl
  obtain ⟨g, ran, stands⟩ := addRegistry_stands rfl rfl untouched exportName
  have same : started exportName = g := by
    have made : addTarget {} = .ok 0 (addTarget.after {}) := rfl
    rw [started, addPrivateRegistry, after_bind_of_ok made]
    exact after_of_ok ran
  rw [same]
  exact stands

theorem furnished_stands : furnished.Stands 0 0 0 { exportName := .str "db" } :=
  have stands := started_stands (.str "db")
  ⟨stands.found, stands.unmarked, stands.tidy, stands.attached, stands.counts⟩

/-- A first registry, and cells that rates of throughput are read from. -/
def metered : Host := { furnished with cells := ⟨[("out", .ok (.int 3)), ("in", .ok (.int 4))]⟩ }

/-- The first surface, that of a table which is called like the scope of throughput, and the gauges of
throughput beside it. -/
def besideRates : Host :=
  (registerThroughput (.registry 0) (.rates 0 "out" "in")).after
    ((buildSurface allTable).after metered)

theorem metered_serves : Serves 0 0 ((buildSurface allTable).after metered) [allTable] [allTable] := by
  have stands := furnished_stands
  have start : Serves 0 0 metered [] [] :=
    .start ⟨stands.found, stands.unmarked, stands.tidy, stands.attached, stands.counts⟩
  obtain ⟨failures, r, wired, -⟩ := start.wired
  have registry : allTable.registry = .registry 0 := rfl
  have counted : allTable.settings.bind levelCount = .ok 7 := rfl
  obtain ⟨s, h', t, ran, -⟩ := buildSurface_run wired.uses registry counted
  rw [after_of_ok ran]
  exact .build start registry counted ran

theorem besideRates_serves : Serves 0 0 besideRates [allTable] [allTable] :=
  .throughput metered_serves trivial

theorem besideRates_holds :
    ∃ r, besideRates.Holds 0 r ∧ outgoingName ∈ r.names ∧ incomingName ∈ r.names := by
  obtain ⟨failures, r, wired, -⟩ := metered_serves.wired
  have source : ((buildSurface allTable).after metered).IsSource (.rates 0 "out" "in") := trivial
  obtain ⟨outgoing, incoming, h', s, ran, binds, uses, -⟩ :=
    registerThroughput_run wired.uses source
  rw [besideRates, after_of_ok ran]
  exact ⟨s, uses.toHolds, (binds.names_iff _).mpr (Or.inr (Or.inl rfl)),
    (binds.names_iff _).mpr (Or.inr (Or.inr rfl))⟩

/-- All of these gauges, counters and histograms are in one scope. In a scrape each is read, and none
of their series comes twice. -/
theorem scrape_shows_each_series_once_allTable :
    Serves 0 0 besideRates [allTable] [allTable] ∧ readsAll 0 besideRates = true ∧
      ∃ r families h', AllBound [allTable] r ∧ outgoingName ∈ r.names ∧ incomingName ∈ r.names ∧
        scrape 0 besideRates = .ok families h' ∧
        ((families.flatMap (·.samples)).Pairwise fun s s' =>
          ¬ (s.name = s'.name ∧ s.labels.Perm s'.labels)) ∧
        ∃ gauges : List String, ((families.flatMap (·.samples)).map Sample.key).Perm
          ((r.bindings.entries.flatMap fun b => r.seriesOf b.1 b.2.kind) ++
            failureKeys r.exportName gauges) := by
  have reads : readsAll 0 besideRates = true := by decide +kernel
  obtain ⟨failures, r, families, h', stands, bound, ran, -, apart, shows⟩ :=
    scrape_shows_each_series_once besideRates_serves
  obtain ⟨gauges, -, perm⟩ := shows reads
  obtain ⟨s, holds, outgoing, incoming⟩ := besideRates_holds
  obtain rfl : s = r := Option.some.inj (holds.held.symm.trans stands.holds.held)
  exact ⟨besideRates_serves, reads, s, families, h', bound, outgoing, incoming, ran, apart, gauges,
    perm⟩

end Host

end StorageMetrics
