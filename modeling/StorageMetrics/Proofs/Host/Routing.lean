import StorageMetrics.Proofs.Host.Owners

/-
  From statistics to samples. In a scrape the statistics of each shard are told under the scope of
  the shard, entry by entry of the catalog, and whatever other shards report shows nowhere in it
  (`shards_show_their_own_statistics`). A name of the catalog tells the table and the shard that it
  was built for, so that the instrument under it reads the statistics of this shard
  (`Wired.reads_shard`), and two hosts that differ in some statistics are read alike but for the
  instruments of these (`besidesStatistics_blurs`).
-/

namespace StorageMetrics

open StorageMetrics.Action

/-- What statistics report of one of them, as samples of a family: count, sum and three quantiles of
a histogram's snapshot, the whole count of a ticker. -/
inductive Statistics.Reports (s : Statistics) (family : String) (labels : SampleLabels) :
    StatSource → List Sample → Prop where
  | histogram {stat : HistogramStat} {snapshot : Snapshot}
      {count sum median percentile95 percentile99 : Value}
      (taken : s.snapshot stat = some snapshot) (counted : snapshot.measure? .count = some count)
      (summed : snapshot.measure? .sum = some sum) (half : snapshot.measure? .median = some median)
      (most : snapshot.measure? .percentile95 = some percentile95)
      (nearlyAll : snapshot.measure? .percentile99 = some percentile99) :
      Reports s family labels (.histogram stat)
        [⟨family ++ "_count", labels, count⟩, ⟨family ++ "_sum", labels, sum⟩,
          ⟨family, labels ++ [("quantile", "0.5")], median⟩,
          ⟨family, labels ++ [("quantile", "0.95")], percentile95⟩,
          ⟨family, labels ++ [("quantile", "0.99")], percentile99⟩]
  | ticker {stat : TickerStat} {n : Int} (whole : (s.ticker stat).toInt = .ok n) :
      Reports s family labels (.ticker stat) [⟨family ++ "_total", labels, .int n⟩]

/-- What is reported is what is told in a scrape. -/
theorem Statistics.Reports.tell_eq {s : Statistics} {family : String} {labels : SampleLabels}
    {source : StatSource} {samples : List Sample} (reports : s.Reports family labels source samples) :
    ∃ reading, s.tell source = .ok reading ∧
      Family.readingSamples family labels labels reading = samples := by
  cases reports with
  | @histogram stat snapshot count sum median percentile95 percentile99 taken counted summed half most
      nearlyAll =>
    refine ⟨.summary count sum
      (.ok [("0.5", median), ("0.95", percentile95), ("0.99", percentile99)]), ?_, rfl⟩
    simp only [Statistics.tell, Reading.ofSnapshot, taken, counted, summed, half, most, nearlyAll]
  | ticker whole =>
    refine ⟨.count _, ?_, rfl⟩
    rw [Statistics.tell, whole]
    rfl

/-! ## Samples of one scope -/

/-- The sample carries this keyspace and this scope. -/
def Sample.isAt (keyspace scope : String) (s : Sample) : Bool :=
  s.labels.lookup "keyspace" = some keyspace && s.labels.lookup "scope" = some scope

/-- The name is of this keyspace and this scope. -/
def MetricName.isAt (keyspace scope : String) (n : MetricName) : Bool :=
  n.keyspace = keyspace && n.table?.getD "" = scope

theorem MetricName.eq_of_isAt {n m : MetricName} {keyspace scope : String}
    (here : n.isAt keyspace scope = true) (there : m.isAt keyspace scope = true) :
    n.keyspace = m.keyspace ∧ n.table?.getD "" = m.table?.getD "" := by
  unfold isAt at here there
  simp only [Bool.and_eq_true, decide_eq_true_eq] at here there
  exact ⟨here.1.trans there.1.symm, here.2.trans there.2.symm⟩

/-- A sample of a member is where the member's name is. -/
theorem Member.isAt_of_mem {r : Registry} {m : Member} (own : OwnName m.name m.handle.kind)
    (usual : m.IsUsual) {s : Sample} (mem : s ∈ (r.familyFor m).samplesOf m)
    (keyspace scope : String) : s.isAt keyspace scope = m.name.isAt keyspace scope := by
  have key := (Member.keys_sublist own usual).subset (List.mem_map_of_mem mem)
  obtain ⟨t, -, same⟩ := List.mem_map.mp key
  obtain ⟨-, labels⟩ := Prod.mk.inj same
  rw [Sample.isAt, MetricName.isAt, ← labels]
  simp [MetricName.labels, List.lookup_cons]

/-- What a member adds in this scope. -/
def Registry.samplesAt (r : Registry) (keyspace scope : String) (m : Member) : List Sample :=
  if m.name.isAt keyspace scope then (r.familyFor m).samplesOf m else []

/-- Samples under their keys, key by key. -/
def regroup (groups : List (String × List Sample)) : List Sample :=
  (groups.map (·.1)).eraseDups.flatMap fun key =>
    (groups.filter fun group => group.1 = key).flatMap (·.2)

/-- Of a member's samples all are in a scope, or none. -/
theorem Member.filter_samplesOf {r : Registry} {m : Member} (own : OwnName m.name m.handle.kind)
    (usual : m.IsUsual) (keyspace scope : String) :
    ((r.familyFor m).samplesOf m).filter (Sample.isAt keyspace scope) =
      r.samplesAt keyspace scope m := by
  unfold Registry.samplesAt
  split
  case isTrue here =>
    exact List.filter_eq_self.mpr fun s mem => by rw [isAt_of_mem own usual mem, here]
  case isFalse elsewhere =>
    refine List.filter_eq_nil_iff.mpr fun s mem => ?_
    rw [isAt_of_mem own usual mem]
    exact elsewhere

/-- Failures are counted in no scope. -/
theorem LabelledSeries.CountsFailures.not_isAt {exportName : Value} {s : LabelledSeries}
    (counts : s.CountsFailures (Host.failureCounterName exportName)) (keyspace scope : String) :
    s.family.samples.filter (Sample.isAt keyspace scope) = [] := by
  obtain ⟨gauges, -, keys⟩ := counts.keys_of_family
  refine List.filter_eq_nil_iff.mpr fun sample mem => ?_
  have key : sample.key ∈ failureKeys exportName gauges := keys ▸ List.mem_map_of_mem mem
  obtain ⟨gauge, -, same⟩ := List.mem_map.mp key
  have labels : sample.labels = [("gauge", gauge)] := (Prod.mk.inj same).2.symm
  rw [Sample.isAt, labels]
  simp [List.lookup_cons]

/-- Where only one of them gives anything, this is all there is. -/
theorem flatMap_eq_of_single {α β : Type} {f : α → List β} {xs : List α} {x : α} (mem : x ∈ xs)
    (nodup : xs.Nodup) (others : ∀ y ∈ xs, y ≠ x → f y = []) : xs.flatMap f = f x := by
  obtain ⟨front, back, rfl⟩ := List.append_of_mem mem
  obtain ⟨-, once, apart⟩ := List.nodup_append.mp nodup
  have before : front.flatMap f = [] := List.flatMap_eq_nil_iff.mpr fun y among =>
    others y (List.mem_append_left _ among) (apart y among x List.mem_cons_self)
  have after : back.flatMap f = [] := List.flatMap_eq_nil_iff.mpr fun y among =>
    others y (List.mem_append_right _ (List.mem_cons_of_mem _ among)) fun same =>
      (List.nodup_cons.mp once).1 (same ▸ among)
  rw [List.flatMap_append, List.flatMap_cons, before, after, List.append_nil, List.nil_append]

/-- What is alike in a list and another one has the same images. -/
theorem map_eq_of_forall₂ {α β : Type} {R : α → α → Prop} {f : α → β} {xs ys : List α}
    (alike : List.Forall₂ R xs ys) (each : ∀ x ∈ xs, ∀ y, R x y → f y = f x) :
    ys.map f = xs.map f := by
  induction alike with
  | nil => rfl
  | cons first _ ih =>
    rw [List.map_cons, List.map_cons, each _ List.mem_cons_self _ first,
      ih fun x mem => each x (List.mem_cons_of_mem _ mem)]

/-! ## Catalog names -/

/-- What reads statistics stands under a label of the catalog. -/
theorem OwnLabel.mem_labels_of_source {label : String} {source : StatSource}
    (own : OwnLabel label source.instrumentKind) : label ∈ Catalog.labels := by
  generalize same : source.instrumentKind = kind at own
  cases own with
  | plain mem =>
    rcases List.mem_append.mp mem with ofCatalog | other
    · obtain ⟨entry, known, same⟩ := List.mem_map.mp ofCatalog
      exact (Prod.mk.inj same).1 ▸ List.mem_map_of_mem known
    · cases source <;> cases same <;> simp [StatSource.instrumentKind] at other
  | level n => cases source <;> cases same

theorem Catalog.level?_label {entry : CatalogEntry} (known : entry ∈ entries) :
    Label.level? entry.label = none :=
  have plain : (entry.label, entry.source.instrumentKind) ∈ plainLabels :=
    List.mem_append_left _ (List.mem_map.mpr ⟨entry, known, rfl⟩)
  OwnLabel.level?_plain plain

theorem Catalog.eq_of_label_eq {entry other : CatalogEntry} (mem : entry ∈ entries)
    (mem' : other ∈ entries) (same : entry.label = other.label) : entry = other :=
  List.inj_on_of_nodup_map labels_nodup mem mem' same

theorem Instrument.ofSource_inj {item item' : Item} {source source' : StatSource}
    (same : ofSource item source = ofSource item' source') : item = item' ∧ source = source' := by
  cases source <;> cases source' <;> cases same <;> exact ⟨rfl, rfl⟩

theorem TableScope.isAt_shardName (scope : TableScope) (label : String) (shard : Nat) :
    (scope.shardName label shard).isAt scope.keyspace (scope.shardTable shard) = true := by
  unfold MetricName.isAt shardName
  rw [keyspace_build, table?_build]
  simp

/-- A shard's name is in the scope of another shard only if it is the same shard of a table that is
called alike. -/
theorem TableScope.eq_of_isAt {scope other : TableScope} {label keyspace : String} {shard i : Nat}
    (here : (scope.shardName label shard).isAt keyspace (other.shardTable i) = true) :
    scope.keyspace = keyspace ∧ scope.table = other.table ∧ shard = i := by
  unfold MetricName.isAt shardName at here
  rw [keyspace_build, table?_build] at here
  simp only [Option.getD_some, Bool.and_eq_true, decide_eq_true_eq] at here
  exact ⟨here.1, numbered_injective here.2⟩

namespace Host

variable {h g h' : Host} {id target failures : Nat} {r : Registry} {built : List SurfaceRequest}
  {ms : List Member} {t : FamilyTable} {s : LabelledSeries} {families : List Family}

/-! ## What is read for a shard -/

/-- The instrument under a shard's name asks the statistics of this shard for the entry's own one. -/
theorem Wired.reads_shard (wired : h.Wired built id target failures r) {request : SurfaceRequest}
    (own : ∀ q ∈ built, q.scope = request.scope → q.statistics = request.statistics)
    {entry : CatalogEntry} (known : entry ∈ Catalog.entries) {i : Nat} {item : Item}
    (given : request.statistics[i]? = some item) {hd : Handle}
    (bound : r.bindings.get? (request.scope.shardName entry.label i) = some hd) :
    h.instruments[hd.id]? = some (.ofSource item entry.source) := by
  obtain ⟨instrument, found, -, accounted⟩ := wired.instruments _ _ bound
  have label : entry.label ∈ Catalog.labels := List.mem_map_of_mem known
  obtain ⟨q, mem, shard, item', entry', known', given', same, rfl⟩ := accounted.wired label
  obtain ⟨scopes, labels, rfl⟩ := TableScope.shardName_inj same
  obtain rfl := Catalog.eq_of_label_eq known known' labels
  rw [own q mem scopes.symm, given] at given'
  rw [found, Option.some.inj given']

/-- In the scope of a shard no instrument asks these statistics, if none of the tables that are called
alike in this keyspace has them for this shard. -/
theorem Wired.not_asked (wired : h.Wired built id target failures r) {keyspace : String}
    {scope : TableScope} {i k : Nat}
    (others : ∀ q ∈ built, q.scope.keyspace = keyspace → q.scope.table = scope.table →
      q.statistics[i]? ≠ some (.statistics k))
    {name : MetricName} {hd : Handle} (bound : r.bindings.get? name = some hd)
    (here : name.isAt keyspace (scope.shardTable i) = true) (source : StatSource) :
    h.instruments[hd.id]? ≠ some (.ofSource (.statistics k) source) := by
  intro asks
  obtain ⟨instrument, found, kind, accounted⟩ := wired.instruments _ _ bound
  obtain rfl := Option.some.inj (found.symm.trans asks)
  rw [Instrument.kind_ofSource] at kind
  have label : name.name ∈ Catalog.labels :=
    OwnLabel.mem_labels_of_source (kind ▸ wired.own.labels name hd bound)
  obtain ⟨q, mem, shard, item, entry, -, given, rfl, same⟩ := accounted.wired label
  obtain ⟨rfl, -⟩ := Instrument.ofSource_inj same
  obtain ⟨keyspaces, tables, rfl⟩ := TableScope.eq_of_isAt here
  exact others q mem keyspaces tables given

namespace Scraped

theorem member_of_bound (scraped : Scraped id target h r ms t s families h') {name : MetricName}
    {hd : Handle} (bound : r.bindings.get? name = some hd) :
    ∃ m ∈ ms, m.name = name ∧ m.handle = hd := by
  have mem : (name, hd) ∈ ms.map Member.binding := by
    rw [scraped.bindings]
    exact OrderedMap.mem_of_get? bound
  obtain ⟨m, mem, same⟩ := List.mem_map.mp mem
  exact ⟨m, mem, Prod.mk.inj same⟩

theorem members_nodup (scraped : Scraped id target h r ms t s families h')
    (wired : h.Wired built id target failures r) : (ms.map (·.name)).Nodup := by
  have names : ms.map (·.name) = r.names := by
    rw [Registry.names, OrderedMap.keys, ← scraped.bindings, List.map_map]
    rfl
  rw [names]
  exact wired.own.exact.names_nodup

/-- A member that asks statistics for what they report gives just that. -/
theorem outcome_eq (scraped : Scraped id target h r ms t s families h')
    (wired : h.Wired built id target failures r) {m : Member} (mem : m ∈ ms) {k : Nat}
    {source : StatSource} (asks : h.instruments[m.handle.id]? = some (.ofSource (.statistics k) source))
    {told : Statistics} (found : h.statistics[k]? = some told) : m.outcome = told.tell source := by
  obtain ⟨g, quiet, outcome⟩ := scraped.outcomes m mem
  obtain ⟨told', found', same⟩ := quiet.tell_eq found
  rw [← quiet.instruments_eq] at asks
  rw [outcome, answer, read_statistics (quiet.marks_eq.trans wired.unmarked) asks found', same]
  cases told.tell source <;> rfl

theorem mem_families (scraped : Scraped id target h r ms t s families h') {key : String}
    {f : Family} (found : t.get? key = some f) : f ∈ families := by
  have mem : f ∈ t.values := List.mem_map_of_mem (OrderedMap.mem_of_get? found)
  rcases scraped.families_eq with rfl | rfl
  · exact List.mem_append_left _ mem
  · exact List.mem_cons_of_mem _ mem

/-- Under a label without a level, the member's family has no other samples in the member's scope. -/
theorem family_of_member (scraped : Scraped id target h r ms t s families h')
    (wired : h.Wired built id target failures r) {m : Member} (mem : m ∈ ms)
    (plain : Label.level? m.name.name = none) :
    ∃ f ∈ families, f.name = r.family m.name.name ∧ ∀ keyspace scope,
      m.name.isAt keyspace scope = true →
        f.samples.filter (Sample.isAt keyspace scope) = (r.familyFor m).samplesOf m := by
  have own : ∀ n ∈ ms, OwnName n.name n.handle.kind := fun n among => scraped.ownName wired among
  obtain ⟨f, found⟩ : ∃ f, t.get? (r.key m) = some f :=
    OrderedMap.mem_keys_iff.mp (scraped.assembled.mem_keys_iff.mpr ⟨m, mem, rfl⟩)
  refine ⟨f, scraped.mem_families found, scraped.assembled.name_eq own found,
    fun keyspace scope here => ?_⟩
  have sharing : ∀ n ∈ r.sharing ms (r.key m), n ∈ ms ∧ r.key n = r.key m := fun n among => by
    obtain ⟨among, same⟩ := List.mem_filter.mp among
    exact ⟨among, of_decide_eq_true same⟩
  have itself : m ∈ r.sharing ms (r.key m) :=
    List.mem_filter.mpr ⟨mem, decide_eq_true rfl⟩
  have nodup : (r.sharing ms (r.key m)).Nodup :=
    (List.Nodup.of_map _ (scraped.members_nodup wired)).filter _
  rw [(scraped.assembled.samples_eq (wired.own.exact.agree scraped.bindings) found).2,
    List.filter_flatMap, flatMap_eq_of_single itself nodup]
  · rw [Member.filter_samplesOf (own m mem) (scraped.usual wired mem), Registry.samplesAt, if_pos here]
  · intro n among differs
    obtain ⟨among, same⟩ := sharing n among
    rw [Member.filter_samplesOf (own n among) (scraped.usual wired among), Registry.samplesAt,
      if_neg]
    intro there
    -- one family, one keyspace and one table: only levels could tell the names apart
    have forms := Registry.form_eq_of_family_eq same
    have leveled : (Label.level? n.name.name).isSome = (Label.level? m.name.name).isSome :=
      congrArg Shape.leveled ((own n among).label.shape_eq (own m mem).label forms)
    rw [plain, Option.isSome_none, Option.isSome_eq_false_iff, Option.isNone_iff_eq_none] at leveled
    obtain ⟨keyspaces, tables⟩ := MetricName.eq_of_isAt there here
    have names := (own n among).eq_of_labels_eq (own m mem) forms keyspaces tables
      (leveled.trans plain.symm)
    exact differs (List.inj_on_of_nodup_map (scraped.members_nodup wired) among mem names)

/-- The samples of one scope, family by family. -/
theorem filter_samples (scraped : Scraped id target h r ms t s families h')
    (wired : h.Wired built id target failures r) (keyspace scope : String) :
    (families.flatMap (·.samples)).filter (Sample.isAt keyspace scope) =
      regroup (ms.map fun m => (r.key m, r.samplesAt keyspace scope m)) := by
  have ofMembers : (t.values.flatMap (·.samples)).filter (Sample.isAt keyspace scope) =
      regroup (ms.map fun m => (r.key m, r.samplesAt keyspace scope m)) := by
    rw [scraped.assembled.samples (wired.own.exact.agree scraped.bindings), List.filter_flatMap,
      regroup, List.map_map]
    refine List.flatMap_congr fun key _ => ?_
    rw [List.filter_flatMap, List.filter_map, List.flatMap_map]
    refine List.flatMap_congr fun m mem => ?_
    have among := List.mem_of_mem_filter mem
    exact Member.filter_samplesOf (scraped.ownName wired among) (scraped.usual wired among) _ _
  have uncounted := scraped.counts.not_isAt keyspace scope
  rcases scraped.families_eq with rfl | rfl
  · rw [List.flatMap_append, List.flatMap_singleton, List.filter_append, uncounted, List.append_nil,
      ofMembers]
  · rw [List.flatMap_cons, List.filter_append, uncounted, List.nil_append, ofMembers]

end Scraped

/-! ## Statistics that differ -/

/-- The two hosts differ in these statistics, and in reports and what is kept at most. -/
structure BesidesStatistics (k : Nat) (h g : Host) : Prop where
  unmarked : h.marks = []
  same : g = { h with journal := g.journal, kept := g.kept, statistics := g.statistics }
  size_eq : g.statistics.size = h.statistics.size
  others : ∀ i, i ≠ k → g.statistics[i]? = h.statistics[i]?

theorem besidesStatistics_blurs (k : Nat) : Blurs (BesidesStatistics k) where
  unmarked differ := differ.unmarked
  sources_eq differ := by rw [differ.same]; rfl
  size_eq differ := differ.size_eq
  notes j j' l l' differ := by
    refine ⟨differ.unmarked, ?_, differ.size_eq, differ.others⟩
    rw [differ.same]
  trackers t differ := by
    refine ⟨differ.unmarked, ?_, differ.size_eq, differ.others⟩
    rw [differ.same]
  failures differ _ _ := by
    refine ⟨differ.unmarked, ?_, differ.size_eq, differ.others⟩
    rw [differ.same]
  asked id q differ := by
    refine ⟨differ.unmarked, ?_, ?_, fun i other => ?_⟩
    · rw [differ.same]
      rfl
    · simp [asked, differ.size_eq]
    · simp only [asked, Array.getElem?_modify, differ.others i other]

/-- Members that read alike give the same samples wherever these statistics are not asked. -/
theorem ReadAlike.samplesAt_eq {k : Nat} {m n : Member}
    (alike : ReadAlike h.instruments (· ≠ k) m n) (own : OwnName m.name m.handle.kind)
    {keyspace scope : String}
    (unasked : m.name.isAt keyspace scope = true → ∀ source,
      h.instruments[m.handle.id]? ≠ some (.ofSource (.statistics k) source)) :
    (r.key n, r.samplesAt keyspace scope n) = (r.key m, r.samplesAt keyspace scope m) := by
  obtain ⟨name, hd, outcome⟩ := m
  obtain ⟨name', hd', outcome'⟩ := n
  obtain ⟨rfl, rfl⟩ : name' = name ∧ hd' = hd := Prod.mk.inj alike.binding_eq
  refine congrArg (Prod.mk _) ?_
  unfold Registry.samplesAt
  dsimp only
  split
  case isFalse => rfl
  case isTrue here =>
    have same : SameAnswer outcome outcome' := alike.outcome fun i source asks other =>
      unasked here source (other ▸ asks)
    rw [Member.samplesOf_familyFor (m := ⟨name', hd', outcome⟩) own,
      Member.samplesOf_familyFor (m := ⟨name', hd', outcome'⟩) own]
    cases outcome <;> cases outcome'
    · rfl
    · exact same.elim
    · exact same.elim
    · rw [show _ = _ from same]

/-- Other statistics in the place of these, the target is scraped as well. Of what they report nothing
shows in the scope of a shard, if no table that is called alike in the keyspace has them for it. -/
theorem Scraped.besides (scraped : Scraped id target h r ms t s families h')
    (wired : h.Wired built id target failures r) (k : Nat) (other : Statistics) :
    ∃ families' h'',
      scrape target { h with statistics := h.statistics.setIfInBounds k other } = .ok families' h'' ∧
      ∀ keyspace (scope : TableScope) i,
        (∀ q ∈ built, q.scope.keyspace = keyspace → q.scope.table = scope.table →
          q.statistics[i]? ≠ some (.statistics k)) →
        (families'.flatMap (·.samples)).filter (Sample.isAt keyspace (scope.shardTable i)) =
          (families.flatMap (·.samples)).filter (Sample.isAt keyspace (scope.shardTable i)) := by
  have wired' : { h with statistics := h.statistics.setIfInBounds k other }.Wired built id target
      failures r := wired.congr rfl
  obtain ⟨ms', t', s', families', h'', scraped'⟩ := wired'.scraped
  have differ : BesidesStatistics k h
      { h with statistics := h.statistics.setIfInBounds k other } :=
    ⟨wired.unmarked, rfl, Array.size_setIfInBounds, fun i elsewhere =>
      Array.getElem?_setIfInBounds_ne fun same => elsewhere same.symm⟩
  obtain ⟨_, _, _, _, read, read', -, alike⟩ := (besidesStatistics_blurs k).readMembers_alike (· ≠ k)
    (fun elsewhere differ => differ.others _ elsewhere) differ id r.bindings.entries
  rw [scraped.read] at read
  rw [scraped'.read] at read'
  cases read
  cases read'
  refine ⟨families', h'', scraped'.ran, fun keyspace scope i unshared => ?_⟩
  rw [scraped.filter_samples wired, scraped'.filter_samples wired']
  refine congrArg regroup (map_eq_of_forall₂ alike fun m mem n alike => ?_)
  exact alike.samplesAt_eq (scraped.ownName wired mem) fun here source =>
    wired.not_asked unshared (scraped.bound wired mem) here source

/-! ## Shards and their statistics -/

/-- In a scrape the family of each entry of the catalog shows, in the scope of each shard, what the
statistics of the shard report of the entry's own statistic. -/
theorem Scraped.shows_shard (scraped : Scraped id target h r ms t s families h')
    (wired : h.Wired built id target failures r) {there : List SurfaceRequest}
    (names : AllBound there r) {request : SurfaceRequest} (mem : request ∈ there)
    (own : ∀ q ∈ built, q.scope = request.scope → q.statistics = request.statistics)
    {entry : CatalogEntry} (known : entry ∈ Catalog.entries) {i k : Nat}
    (given : request.statistics[i]? = some (.statistics k)) {told : Statistics}
    (found : h.statistics[k]? = some told) {samples : List Sample}
    (reports : told.Reports (r.family entry.label) [("keyspace", request.scope.keyspace),
      ("scope", request.scope.shardTable i)] entry.source samples) :
    ∃ f ∈ families, f.name = r.family entry.label ∧ f.samples.filter
      (Sample.isAt request.scope.keyspace (request.scope.shardTable i)) = samples := by
  obtain ⟨levels, -, bound⟩ := names request mem
  obtain ⟨inside, -⟩ := List.getElem?_eq_some_iff.mp given
  obtain ⟨hd, bound⟩ : ∃ hd,
      r.bindings.get? (request.scope.shardName entry.label i) = some hd :=
    OrderedMap.mem_keys_iff.mp (bound _ (Surface.mem_nameList_iff.mpr
      (Or.inl ⟨i, inside, _, List.mem_map_of_mem known, rfl⟩)))
  obtain ⟨m, among, name, rfl⟩ := scraped.member_of_bound bound
  have label : m.name.name = entry.label := congrArg MetricName.name name
  have plain : Label.level? m.name.name = none := by rw [label, Catalog.level?_label known]
  have here : m.name.isAt request.scope.keyspace (request.scope.shardTable i) = true := by
    rw [name]
    exact request.scope.isAt_shardName _ _
  obtain ⟨f, shown, called, filtered⟩ := scraped.family_of_member wired among plain
  refine ⟨f, shown, by rw [called, label], ?_⟩
  obtain ⟨reading, tells, same⟩ := reports.tell_eq
  have outcome := scraped.outcome_eq wired among (wired.reads_shard own known given bound) found
  have labels : m.name.labels = [("keyspace", request.scope.keyspace),
      ("scope", request.scope.shardTable i)] := by
    rw [MetricName.labels, plain, name, TableScope.shardName, TableScope.keyspace_build,
      TableScope.table?_build]
    rfl
  rw [filtered _ _ here, Member.samplesOf_familyFor (scraped.ownName wired among), outcome, tells,
    ← same, label, labels]

/-- A table whose shards have statistics of their own shows, in the scope of each shard and in the
family of each entry of the catalog, what the shard's statistics report of the entry's own statistic,
whatever other tables there are. And what the statistics of one shard report shows in the scope of no
other shard, in no keyspace but in one where other tables have these statistics, too. -/
theorem shards_show_their_own_statistics {there : List SurfaceRequest} {request : SurfaceRequest}
    {ids : List Nat} (serves : Serves id target h built there) (mem : request ∈ there)
    (own : ∀ q ∈ built, q.scope = request.scope → q.statistics = request.statistics)
    (given : request.statistics = ids.map Item.statistics) (distinct : ids.Nodup) :
    ∃ failures r families h', h.Stands id target failures r ∧
      scrape target h = .ok families h' ∧ (families.map (·.name)).Nodup ∧
      (∀ i k told, ids[i]? = some k → h.statistics[k]? = some told →
        ∀ entry ∈ Catalog.entries, ∀ samples,
          told.Reports (r.family entry.label) [("keyspace", request.scope.keyspace),
            ("scope", request.scope.shardTable i)] entry.source samples →
          ∃ f ∈ families, f.name = r.family entry.label ∧ f.samples.filter
            (Sample.isAt request.scope.keyspace (request.scope.shardTable i)) = samples) ∧
      ∀ j k other, ids[j]? = some k → ∃ families' h'',
        scrape target { h with statistics := h.statistics.setIfInBounds k other } =
          .ok families' h'' ∧
        ∀ i, i ≠ j → ∀ keyspace, (keyspace = request.scope.keyspace ∨
            ∀ q ∈ built, q.scope.keyspace = keyspace → Item.statistics k ∉ q.statistics) →
          (families'.flatMap (·.samples)).filter
              (Sample.isAt keyspace (request.scope.shardTable i)) =
            (families.flatMap (·.samples)).filter
              (Sample.isAt keyspace (request.scope.shardTable i)) := by
  obtain ⟨failures, r, wired, names⟩ := serves.wired
  obtain ⟨ms, t, s, families, h', scraped⟩ := wired.scraped
  refine ⟨failures, r, families, h', wired.toStands, scraped.ran, scraped.names_nodup wired, ?_, ?_⟩
  · intro i k told shard found entry known samples reports
    have item : request.statistics[i]? = some (.statistics k) := by
      rw [given, List.getElem?_map, shard]
      rfl
    exact scraped.shows_shard wired names mem own known item found reports
  · intro j k other shard
    obtain ⟨families', h'', ran, agree⟩ := scraped.besides wired k other
    refine ⟨families', h'', ran, fun i differs keyspace apart => ?_⟩
    refine agree keyspace request.scope i fun q among keyspaces tables here => ?_
    rcases apart with rfl | unshared
    · -- the same table, where only one shard has these statistics
      rw [own q among (TableScope.eq_of_parts keyspaces tables), given, List.getElem?_map] at here
      obtain ⟨k', there, same⟩ := Option.map_eq_some_iff.mp here
      cases same
      obtain ⟨inside, first⟩ := List.getElem?_eq_some_iff.mp shard
      obtain ⟨inside', second⟩ := List.getElem?_eq_some_iff.mp there
      exact differs ((distinct.getElem_inj_iff).mp (second.trans first.symm))
    · exact unshared q among keyspaces (List.mem_of_getElem? here)

/-! ## Two shards -/

def blockCacheHits : CatalogEntry := .counter "BlockCacheHit" .blockCacheHit

def twoShards : SurfaceRequest := { allTable with statistics := [.statistics 0, .statistics 1] }

/-- Seeks are counted, and a write takes its time. -/
def writesOn (s : Surface) : List Write :=
  [.increase s.iterSeek (.int 3), .update s.ingestTime (.float 250)]

/-- The owners of the surface were at work, then a gauge was polled and the target scraped. -/
def worked (s : Surface) (h : Host) : Host :=
  (scrape 0).after ((pollGauge s.live).after ((writesOn s).foldl (fun h w => w.after h) h))

theorem Serves.worked {there : List SurfaceRequest} (serves : Serves 0 0 h built there)
    (s : Surface) : Serves 0 0 (worked s h) built there :=
  ((serves.writes (writesOn s)).poll s.live).scrape

/-- A surface of two shards was built and worked with, and then the second shard has hit its block
cache. The hits are shown for this shard. -/
theorem shards_show_their_own_statistics_twoShards :
    ∃ g s now, buildSurface twoShards furnished = .ok 0 g ∧ g.surfaces[0]? = some s ∧
      now = { worked s g with statistics := #[{}, Statistics.setTicker {} .blockCacheHit (.int 5)] } ∧
      Serves 0 0 now [twoShards] [twoShards] ∧
      (∀ q ∈ [twoShards], q.scope = twoShards.scope → q.statistics = twoShards.statistics) ∧
      twoShards.statistics = [0, 1].map Item.statistics ∧ [0, 1].Nodup ∧
      ∃ failures r families h', now.Stands 0 0 failures r ∧ scrape 0 now = .ok families h' ∧
        ∃ f ∈ families, f.name = r.family blockCacheHits.label ∧
          f.samples.filter (Sample.isAt "all" "all_1") =
            [⟨r.family blockCacheHits.label ++ "_total",
              [("keyspace", "all"), ("scope", "all_1")], .int 5⟩] := by
  have start : Serves 0 0 furnished [] [] := .start furnished_stands
  have registry : twoShards.registry = .registry 0 := rfl
  have counted : twoShards.settings.bind levelCount = .ok 7 := rfl
  obtain ⟨s, g, t, ran, surfaces, -⟩ := build_first registry counted
  have built : Serves 0 0 g [twoShards] [twoShards] := .build start registry counted ran
  have serves := (built.worked s).reporting
    #[{}, Statistics.setTicker {} .blockCacheHit (.int 5)]
  have own : ∀ q ∈ [twoShards], q.scope = twoShards.scope → q.statistics = twoShards.statistics :=
    fun q mem _ => by rw [List.mem_singleton.mp mem]
  have given : twoShards.statistics = [0, 1].map Item.statistics := rfl
  have distinct : [0, 1].Nodup := by decide
  obtain ⟨failures, r, families, h', stands, shown, -, shows, -⟩ :=
    shards_show_their_own_statistics serves List.mem_cons_self own given distinct
  have known : blockCacheHits ∈ Catalog.entries := by decide +kernel
  obtain ⟨f, mem, name, filtered⟩ := shows 1 1 _ rfl rfl _ known _ (.ticker (n := 5) rfl)
  exact ⟨g, s, _, ran, by rw [surfaces]; rfl, rfl, serves, own, given, distinct, failures, r, families,
    h', stands, shown, f, mem, name, filtered⟩

end Host

end StorageMetrics
