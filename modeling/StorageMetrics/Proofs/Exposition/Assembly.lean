import StorageMetrics.Exposition.Family
import StorageMetrics.Proofs.Registry.Exact

/-
  Assemblies: what a scrape makes of its members and of what came of reading them, without the reads.
  A family is made for its first member and takes in the others, so its samples are right for all of
  them only as long as they share name and label names; members of one shape do. Then each member
  adds what it would add in a registry of its own, whatever came of the others
  (`Registry.assemble_exposes`).
-/

namespace StorageMetrics

/-- A bound instrument of a registry, and what came of reading it. -/
structure Member where
  name : MetricName
  handle : Handle
  outcome : Except Fault Reading

namespace Member

def binding (m : Member) : MetricName × Handle := (m.name, m.handle)

def shape (m : Member) : Shape := Registry.shapeOf m.name.name m.handle.kind

/-- The labels that every sample of the member carries. -/
def labels (m : Member) (table : String) : SampleLabels :=
  ("keyspace", m.name.keyspace) :: ("scope", table) ::
    ((Label.level? m.name.name).map fun level => ("level", level)).toList

/-- The member's table and reading, if it has both. -/
def located? (m : Member) : Option (String × Reading) :=
  match m.name.table?, m.outcome with
  | some table, .ok reading => some (table, reading)
  | _, _ => none

theorem located?_error (name : MetricName) (h : Handle) (e : Fault) :
    (⟨name, h, .error e⟩ : Member).located? = none := by
  unfold located?
  cases name.table? <;> rfl

theorem located?_ok {name : MetricName} {table : String} (located : name.table? = some table)
    (h : Handle) (reading : Reading) :
    (⟨name, h, .ok reading⟩ : Member).located? = some (table, reading) := by
  unfold located?
  rw [located]

theorem zip_labels (m : Member) (table : String) :
    (Family.labelNamesFor (Label.level? m.name.name).isSome).zip
      (Family.labelValues m.name.keyspace table m.name.name) = m.labels table := by
  unfold Family.labelNamesFor Family.labelValues labels
  cases Label.level? m.name.name <;> rfl

end Member

/-- The type of series that a reading makes. -/
def Reading.series : Reading → SeriesType
  | gauge _ => .gauge
  | count _ => .counter
  | distribution _ => .histogram
  | summary .. => .summary

/-- The labels of a sample besides those of its member, by the names of family and sample. -/
def SeriesType.ownLabels (series : SeriesType) (family sample : String) : List String :=
  match series with
  | .histogram => if sample = family ++ "_bucket" then ["le"] else []
  | .summary => if sample = family then ["quantile"] else []
  | _ => []

namespace Family

/-! ## Names of families -/

theorem isSuffixOf_take_eq_nil {cs suffix : List Char} (ends : suffix.isSuffixOf cs = true) :
    cs.take (cs.length - suffix.length) = [] ↔ cs = suffix := by
  obtain ⟨front, rfl⟩ := List.isSuffixOf_iff_suffix.mp ends
  rw [List.length_append, Nat.add_sub_cancel, List.take_left']
  · constructor
    · rintro rfl
      rfl
    · intro same
      have lengths := congrArg List.length same
      rw [List.length_append] at lengths
      exact List.length_eq_zero_iff.mp (by omega)
  · rfl

/-- Without `_total` at its end only `_total` itself is empty. -/
theorem dropTotal_eq_empty {key : String} (present : key ≠ "") :
    dropTotal key = "" ↔ key = "_total" := by
  unfold dropTotal
  dsimp only
  split
  case isTrue ends =>
    rw [← String.toList_inj, String.toList_ofList]
    exact (isSuffixOf_take_eq_nil ends).trans String.toList_inj
  case isFalse ends =>
    refine ⟨fun empty => absurd empty present, fun same => ?_⟩
    subst same
    exact absurd (by decide +kernel) ends

/-- A family can be made unless it is one of counters and would be left without a name. -/
theorem ofMember_ok {key : String} (present : key ≠ "") {series : SeriesType}
    (named : ¬ (series = .counter ∧ key = "_total")) (label : String) :
    ofMember key series label =
      .ok ⟨if series = .counter then dropTotal key else key, "Rocksdb " ++ Label.base label, series,
        labelNamesFor (Label.level? label).isSome, []⟩ := by
  unfold ofMember
  dsimp only
  rw [if_neg]
  intro empty
  split at empty
  case isTrue counts => exact named ⟨counts, (dropTotal_eq_empty present).mp empty⟩
  case isFalse => exact present empty

theorem ofMember_total (label : String) :
    ofMember "_total" .counter label = .error .emptyFamilyName := by
  have empty : dropTotal "_total" = "" := (dropTotal_eq_empty (by decide)).mpr rfl
  unfold ofMember
  dsimp only
  rw [if_pos rfl, if_pos empty]

/-! ## Taking members in -/

/-- The samples that a member adds to a family. -/
def samplesOf (f : Family) (m : Member) : List Sample :=
  match m.located? with
  | some (table, reading) => f.memberSamples m.name.keyspace table m.name.name reading
  | none => []

theorem mem_samplesOf {f : Family} {m : Member} {s : Sample} (mem : s ∈ f.samplesOf m) :
    ∃ table reading, m.name.table? = some table ∧ m.outcome = .ok reading ∧
      s ∈ readingSamples f.name
        (f.labelNames.zip (labelValues m.name.keyspace table m.name.name)) (m.labels table)
        reading := by
  unfold samplesOf Member.located? at mem
  cases hasTable : m.name.table? with
  | none => simp [hasTable] at mem
  | some table =>
    cases read : m.outcome with
    | error e => simp [hasTable, read] at mem
    | ok reading =>
      rw [hasTable, read] at mem
      unfold memberSamples at mem
      dsimp only at mem
      rw [Member.zip_labels] at mem
      exact ⟨table, reading, rfl, rfl, mem⟩

/-- The family with the samples of one more member. -/
def extend (f : Family) (m : Member) : Family := { f with samples := f.samples ++ f.samplesOf m }

/-- A sample carries the labels of its member, and what its series has besides. -/
theorem labels_of_readingSamples (name : String) (labels : SampleLabels) (reading : Reading) :
    ∀ s ∈ readingSamples name labels labels reading, ∃ extra,
      s.labels = labels ++ extra ∧ extra.map (·.1) = reading.series.ownLabels name s.name := by
  intro s mem
  cases reading with
  | gauge x =>
    obtain rfl := List.mem_singleton.mp mem
    exact ⟨[], (List.append_nil _).symm, rfl⟩
  | count n =>
    obtain rfl := List.mem_singleton.mp mem
    exact ⟨[], (List.append_nil _).symm, rfl⟩
  | distribution h =>
    obtain inBuckets | rest := List.mem_append.mp mem
    · obtain ⟨bucket, -, rfl⟩ := List.mem_map.mp inBuckets
      exact ⟨[("le", bucket.1)], rfl, (if_pos rfl).symm⟩
    · split at rest
      case isFalse => cases rest
      case isTrue =>
        refine ⟨[], ?_, (if_neg ?_).symm⟩
        · obtain rfl | rfl := List.mem_pair.mp rest <;> exact (List.append_nil _).symm
        · obtain rfl | rfl := List.mem_pair.mp rest <;>
            exact fun same => absurd ((String.append_right_inj name).mp same) (by decide)
  | summary count sum quantiles =>
    obtain rfl | mem := List.mem_cons.mp mem
    · refine ⟨[], (List.append_nil _).symm, (if_neg fun same => ?_).symm⟩
      exact absurd (String.append_eq_left_iff.mp same) (by decide)
    · obtain rfl | mem := List.mem_cons.mp mem
      · refine ⟨[], (List.append_nil _).symm, (if_neg fun same => ?_).symm⟩
        exact absurd (String.append_eq_left_iff.mp same) (by decide)
      · cases quantiles with
        | error e => cases mem
        | ok qs =>
          obtain ⟨q, -, rfl⟩ := List.mem_map.mp mem
          exact ⟨[("quantile", q.1)], rfl, (if_pos rfl).symm⟩

/-- What a member adds depends on the family's name and label names alone. -/
theorem samplesOf_congr {f g : Family} (sameName : f.name = g.name)
    (sameLabels : f.labelNames = g.labelNames) (m : Member) : f.samplesOf m = g.samplesOf m := by
  unfold samplesOf memberSamples
  rw [sameName, sameLabels]

theorem extend_none {f : Family} {m : Member} (unread : m.located? = none) : f.extend m = f := by
  unfold extend samplesOf
  rw [unread, List.append_nil]

theorem extend_some {f : Family} {m : Member} {table : String} {reading : Reading}
    (read : m.located? = some (table, reading)) :
    f.extend m = f.add m.name.keyspace table m.name.name reading := by
  unfold extend samplesOf add
  rw [read]

theorem foldl_extend (ms : List Member) (f : Family) :
    ms.foldl extend f = { f with samples := f.samples ++ ms.flatMap f.samplesOf } := by
  induction ms generalizing f with
  | nil => simp
  | cons m rest ih =>
    have same : (f.extend m).samplesOf = f.samplesOf := rfl
    rw [List.foldl_cons, ih, same, List.flatMap_cons, ← List.append_assoc]
    rfl

end Family

namespace Registry

/-! ## Assemblies -/

/-- The family that a member belongs to. -/
def key (r : Registry) (m : Member) : String := r.family m.name.name

/-- The members of a family, in order. -/
def sharing (r : Registry) (ms : List Member) (key : String) : List Member :=
  ms.filter fun m => r.key m = key

/-- Adds a member to the families under construction. -/
def addMember (r : Registry) (t : FamilyTable) (m : Member) : Except Fault FamilyTable := do
  let t ← t.ensure (r.key m) m.handle.kind.series m.name.name
  return match m.located? with
    | some (table, reading) => t.addReading (r.key m) m.name.keyspace table m.name.name reading
    | none => t

/-- Adds members in order. -/
def assemble (r : Registry) : List Member → FamilyTable → Except Fault FamilyTable
  | [], t => .ok t
  | m :: rest, t => do r.assemble rest (← r.addMember t m)

/-- The registry of the same export name that holds this member alone. -/
def alone (r : Registry) (m : Member) : Registry :=
  ({ exportName := r.exportName } : Registry).bind m.name m.handle

/-- The samples that a member gives in a registry of its own. -/
def samplesAlone (r : Registry) (m : Member) : List Sample :=
  match (r.alone m).assemble [m] {} with
  | .ok t => t.values.flatMap (·.samples)
  | .error _ => []

/-- A counter whose family would be left without a name. -/
def Nameless (r : Registry) (name : MetricName) (h : Handle) : Prop :=
  h.kind.series = .counter ∧ r.family name.name = "_total"

/-- What a scrape shows of these members with these outcomes. -/
structure Exposes (r : Registry) (ms : List Member) (t : FamilyTable) : Prop where
  /-- One family for each key, in the order of the first members. -/
  keys_eq : t.keys = (ms.map r.key).eraseDups
  /-- Every family is of the type of all its members. -/
  series_eq : ∀ key f, t.get? key = some f → ∀ m ∈ r.sharing ms key,
    f.series = m.handle.kind.series
  /-- Its samples are those that each of its members would give alone. -/
  samples_eq : ∀ key f, t.get? key = some f →
    f.samples = (r.sharing ms key).flatMap r.samplesAlone
  /-- Every sample is labelled for its member, and otherwise as its type asks for. -/
  labels_eq : ∀ key f, t.get? key = some f → ∀ s ∈ f.samples, ∃ m ∈ r.sharing ms key, ∃ table,
    m.name.table? = some table ∧ ∃ extra, s.labels = m.labels table ++ extra ∧
      extra.map (·.1) = f.series.ownLabels f.name s.name

variable {r : Registry}

theorem family_ne_empty (label : String) : r.family label ≠ "" := by
  intro empty
  have chars := congrArg String.toList empty
  unfold family at chars
  simp at chars

theorem Nameless.exportName (nameless : r.Nameless name h) : r.exportName.plain = "" := by
  have chars := congrArg String.toList nameless.2
  have total : "_total".toList = '_' :: "total".toList := by decide +kernel
  unfold family at chars
  rw [String.toList_append, String.toList_append, total] at chars
  rw [← String.toList_inj]
  cases front : r.exportName.plain.toList with
  | nil => rfl
  | cons c rest =>
    -- a second underscore would stand inside of `total`
    rw [front] at chars
    have tail : rest ++ "_".toList ++ _ = "total".toList := (List.cons.inj chars).2
    have inside : '_' ∈ "total".toList := by
      rw [← tail]
      exact List.mem_append_left _ (List.mem_append_right _ (by decide +kernel))
    exact absurd inside (by decide +kernel)

/-- The family that the member asks for, without samples. -/
def familyFor (r : Registry) (m : Member) : Family where
  name := if m.handle.kind.series = .counter then Family.dropTotal (r.key m)
    else r.key m
  doc := "Rocksdb " ++ Label.base m.name.name
  series := m.handle.kind.series
  labelNames := Family.labelNamesFor (Label.level? m.name.name).isSome
  samples := []

/-- Members of one key and one shape ask for families that take in samples alike. -/
theorem samplesOf_familyFor {m n : Member} (sameKey : r.key m = r.key n)
    (sameShape : m.shape = n.shape) (other : Member) :
    (r.familyFor m).samplesOf other = (r.familyFor n).samplesOf other := by
  have sameSeries : m.handle.kind.series = n.handle.kind.series := congrArg Shape.series sameShape
  have sameLevel : (Label.level? m.name.name).isSome = (Label.level? n.name.name).isSome :=
    congrArg Shape.leveled sameShape
  refine Family.samplesOf_congr ?_ ?_ other
  · unfold familyFor
    rw [sameKey, sameSeries]
  · unfold familyFor
    rw [sameLevel]

theorem ofMember_familyFor {m : Member} (named : ¬ r.Nameless m.name m.handle) :
    Family.ofMember (r.key m) m.handle.kind.series m.name.name = .ok (r.familyFor m) :=
  Family.ofMember_ok (family_ne_empty m.name.name) named m.name.name

/-- A key is looked up as it was, unless it is the one that was put in. -/
structure Puts (t u : FamilyTable) (key : String) (f : Family) : Prop where
  keys_eq : u.keys = if key ∈ t.keys then t.keys else t.keys ++ [key]
  get?_eq : ∀ k, u.get? k = if key = k then some f else t.get? k

theorem puts_insert (t : FamilyTable) (key : String) (f : Family) : Puts t (t.insert key f) key f where
  keys_eq := by
    split
    case isTrue mem => exact OrderedMap.keys_insert_of_mem mem
    case isFalse absent => exact OrderedMap.keys_insert_of_not_mem absent
  get?_eq k := OrderedMap.get?_insert t key k f

theorem puts_self {t : FamilyTable} {key : String} {f : Family} (found : t.get? key = some f) :
    Puts t t key f where
  keys_eq := (if_pos (OrderedMap.mem_keys_of_get? found)).symm
  get?_eq k := by
    split
    case isTrue same => rw [← same, found]
    case isFalse => rfl

theorem Puts.trans {t u v : FamilyTable} {key : String} {f g : Family} (first : Puts t u key f)
    (then_ : Puts u v key g) : Puts t v key g where
  keys_eq := by
    have mem : key ∈ u.keys := OrderedMap.mem_keys_of_get? ((first.get?_eq key).trans (if_pos rfl))
    rw [then_.keys_eq, if_pos mem, first.keys_eq]
  get?_eq k := by
    rw [then_.get?_eq, first.get?_eq]
    split <;> rfl

/-- The family of a member is there already, or is made as the member asks for it. -/
theorem ensure_ok {m : Member} (named : ¬ r.Nameless m.name m.handle) (t : FamilyTable) :
    ∃ u, t.ensure (r.key m) m.handle.kind.series m.name.name = .ok u ∧
      Puts t u (r.key m) ((t.get? (r.key m)).getD (r.familyFor m)) := by
  unfold FamilyTable.ensure OrderedMap.contains
  cases found : t.get? (r.key m) with
  | some f => exact ⟨t, rfl, puts_self found⟩
  | none =>
    rw [if_neg (by simp), ofMember_familyFor named]
    exact ⟨_, rfl, puts_insert t _ _⟩

theorem addMember_of_ensured {t u : FamilyTable} {m : Member}
    (ensured : t.ensure (r.key m) m.handle.kind.series m.name.name = .ok u) :
    r.addMember t m = .ok (match m.located? with
      | some (table, reading) => u.addReading (r.key m) m.name.keyspace table m.name.name reading
      | none => u) := by
  rw [addMember, ensured]
  rfl

/-- A member that has a family to go to extends that family and leaves the others alone. -/
theorem addMember_ok {m : Member} (named : ¬ r.Nameless m.name m.handle) (t : FamilyTable) :
    ∃ u, r.addMember t m = .ok u ∧ Puts t u (r.key m)
      (((t.get? (r.key m)).getD (r.familyFor m)).extend m) := by
  obtain ⟨u, ensured, puts⟩ := ensure_ok named t
  have there := (puts.get?_eq _).trans (if_pos rfl)
  rw [addMember_of_ensured ensured]
  cases located : m.located? with
  | none =>
    rw [Family.extend_none located]
    exact ⟨u, rfl, puts⟩
  | some found =>
    obtain ⟨table, reading⟩ := found
    refine ⟨_, rfl, puts.trans ?_⟩
    unfold FamilyTable.addReading
    rw [there, Family.extend_some located]
    exact puts_insert u _ _

/-! ## All members -/

/-- The families under construction once these members were added. -/
structure Assembled (r : Registry) (ms : List Member) (t : FamilyTable) : Prop where
  keys_eq : t.keys = (ms.map r.key).eraseDups
  /-- A family was made for one of its members and took in all of them. -/
  get?_eq : ∀ key f, t.get? key = some f → ∃ m ∈ ms, r.key m = key ∧
    f = (r.sharing ms key).foldl Family.extend (r.familyFor m)

theorem assembled_nil : r.Assembled [] {} where
  keys_eq := rfl
  get?_eq _ _ found := by cases OrderedMap.mem_of_get? found

theorem Assembled.mem_keys_iff {ms : List Member} {t : FamilyTable} (assembled : r.Assembled ms t)
    {key : String} : key ∈ t.keys ↔ ∃ m ∈ ms, r.key m = key := by
  rw [assembled.keys_eq, List.mem_eraseDups, List.mem_map]

theorem sharing_append_of_eq {m : Member} {key : String} (same : r.key m = key) (ms : List Member) :
    r.sharing (ms ++ [m]) key = r.sharing ms key ++ [m] := by
  unfold sharing
  rw [List.filter_append, List.filter_cons_of_pos (by simpa using same), List.filter_nil]

theorem sharing_append_of_ne {m : Member} {key : String} (other : r.key m ≠ key)
    (ms : List Member) : r.sharing (ms ++ [m]) key = r.sharing ms key := by
  unfold sharing
  rw [List.filter_append, List.filter_cons_of_neg (by simpa using other), List.filter_nil,
    List.append_nil]

theorem eraseDups_append_singleton (xs : List String) (x : String) :
    (xs ++ [x]).eraseDups = if x ∈ xs then xs.eraseDups else xs.eraseDups ++ [x] := by
  rw [List.eraseDups_append]
  by_cases mem : x ∈ xs
  · simp [List.removeAll, mem]
  · simp [List.removeAll, mem, List.eraseDups_cons]

theorem Assembled.add {ms : List Member} {t u : FamilyTable} (before : r.Assembled ms t) {m : Member}
    (puts : Puts t u (r.key m) (((t.get? (r.key m)).getD (r.familyFor m)).extend m)) :
    r.Assembled (ms ++ [m]) u where
  keys_eq := by
    rw [puts.keys_eq, List.map_append, List.map_singleton, eraseDups_append_singleton,
      before.keys_eq]
    simp only [List.mem_eraseDups]
  get?_eq key f found := by
    rw [puts.get?_eq] at found
    by_cases same : r.key m = key
    · rw [if_pos same, Option.some.injEq] at found
      subst found
      rw [sharing_append_of_eq same, same]
      simp only [List.foldl_append, List.foldl_cons, List.foldl_nil]
      cases earlier : t.get? key with
      | none =>
        have none_before : r.sharing ms key = [] := List.filter_eq_nil_iff.mpr fun n mem => by
          have absent := OrderedMap.get?_eq_none_iff.mp earlier
          rw [before.mem_keys_iff] at absent
          simpa using fun sameKey => absent ⟨n, mem, sameKey⟩
        exact ⟨m, List.mem_append_right _ List.mem_cons_self, same, by rw [none_before]; rfl⟩
      | some g =>
        obtain ⟨n, mem, sameKey, rfl⟩ := before.get?_eq _ _ earlier
        exact ⟨n, List.mem_append_left _ mem, sameKey, rfl⟩
    · rw [if_neg same] at found
      obtain ⟨n, mem, sameKey, made⟩ := before.get?_eq _ _ found
      rw [sharing_append_of_ne same]
      exact ⟨n, List.mem_append_left _ mem, sameKey, made⟩

/-- Members that all have a family to go to are assembled one after the other. -/
theorem Assembled.assemble {done ms : List Member} {t : FamilyTable} (before : r.Assembled done t)
    (named : ∀ m ∈ ms, ¬ r.Nameless m.name m.handle) :
    ∃ u, r.assemble ms t = .ok u ∧ r.Assembled (done ++ ms) u := by
  induction ms generalizing done t with
  | nil => exact ⟨t, rfl, by rwa [List.append_nil]⟩
  | cons m rest ih =>
    obtain ⟨u, added, puts⟩ := addMember_ok (named m List.mem_cons_self) t
    obtain ⟨v, assembled, whole⟩ :=
      ih (before.add puts) fun n mem => named n (List.mem_cons_of_mem _ mem)
    refine ⟨v, ?_, by rwa [List.append_cons]⟩
    rw [Registry.assemble, added]
    exact assembled

/-! ## Members alone -/

theorem key_alone (r : Registry) (m n : Member) : (r.alone m).key n = r.key n :=
  family_congr rfl n.name.name

theorem familyFor_alone (r : Registry) (m n : Member) : (r.alone m).familyFor n = r.familyFor n := by
  unfold familyFor
  rw [key_alone]

theorem Nameless.of_alone {m : Member} {name : MetricName} {h : Handle}
    (nameless : (r.alone m).Nameless name h) : r.Nameless name h :=
  ⟨nameless.1, (family_congr rfl _).symm.trans nameless.2⟩

theorem values_of_puts {u : FamilyTable} {key : String} {f : Family} (puts : Puts {} u key f) :
    u.values = [f] := by
  have keys : u.entries.map (·.1) = [key] := puts.keys_eq
  have found : u.get? key = some f := (puts.get?_eq key).trans (if_pos rfl)
  obtain ⟨⟨k, g⟩, entries, -⟩ := List.map_eq_singleton_iff.mp keys
  have mem := OrderedMap.mem_of_get? found
  rw [entries] at mem
  cases List.mem_singleton.mp mem
  unfold OrderedMap.values
  rw [entries]
  rfl

/-- Alone a member gives what it adds to the family it asks for. -/
theorem samplesAlone_eq {m : Member} (named : ¬ r.Nameless m.name m.handle) :
    r.samplesAlone m = (r.familyFor m).samplesOf m := by
  obtain ⟨u, added, puts⟩ := addMember_ok (fun nameless => named (nameless.of_alone)) {}
  have assembled : (r.alone m).assemble [m] {} = .ok u := by
    rw [assemble, added]
    rfl
  unfold samplesAlone
  rw [assembled]
  dsimp only
  rw [values_of_puts puts, familyFor_alone, List.flatMap_singleton]
  exact List.nil_append _

/-! ## Families and their members -/

/-- Members of one family have one shape. -/
def Agree (r : Registry) (ms : List Member) : Prop :=
  ∀ m ∈ ms, ∀ n ∈ ms, r.key m = r.key n → m.shape = n.shape

/-- The members of an exact registry agree, whatever came of reading them. -/
theorem Exact.agree (exact : r.Exact) {ms : List Member}
    (bound : ms.map Member.binding = r.bindings.entries) : r.Agree ms := by
  have isBound : ∀ m ∈ ms, r.bindings.get? m.name = some m.handle := by
    intro m mem
    have entry : m.binding ∈ r.bindings.entries := bound ▸ List.mem_map_of_mem mem
    exact exact.get?_of_mem entry
  intro m mem n mem' same
  exact exact.shape_eq_of_family_eq (isBound m mem) (isBound n mem') same

theorem mem_sharing {ms : List Member} {key : String} {m : Member} :
    m ∈ r.sharing ms key ↔ m ∈ ms ∧ r.key m = key := by
  simp [sharing]

/-- A family with its members: it was made for one of them and has taken in all. -/
theorem Assembled.samples_eq {ms : List Member} {t : FamilyTable} (assembled : r.Assembled ms t)
    (agree : r.Agree ms) {key : String} {f : Family} (found : t.get? key = some f) :
    (∀ m ∈ r.sharing ms key, f.series = m.handle.kind.series ∧ f.name = (r.familyFor m).name) ∧
      f.samples = (r.sharing ms key).flatMap fun m => (r.familyFor m).samplesOf m := by
  obtain ⟨first, mem, rfl, rfl⟩ := assembled.get?_eq key f found
  rw [Family.foldl_extend]
  have alike : ∀ m ∈ r.sharing ms (r.key first), r.key first = r.key m ∧ first.shape = m.shape := by
    intro m among
    obtain ⟨mem', same⟩ := mem_sharing.mp among
    exact ⟨same.symm, agree _ mem _ mem' same.symm⟩
  constructor
  · intro m among
    obtain ⟨sameKey, sameShape⟩ := alike m among
    have sameSeries : first.handle.kind.series = m.handle.kind.series :=
      congrArg Shape.series sameShape
    refine ⟨sameSeries, ?_⟩
    unfold familyFor
    dsimp only
    rw [sameSeries, sameKey]
  · refine (List.nil_append _).trans (List.flatMap_congr fun m among => ?_)
    obtain ⟨sameKey, sameShape⟩ := alike m among
    exact samplesOf_familyFor sameKey sameShape m

/-- Members of one shape for each family, none of them nameless, give one family for each key, and
each of them adds to its family what it would give alone. -/
theorem assemble_exposes {ms : List Member} (agree : r.Agree ms)
    (named : ∀ m ∈ ms, ¬ r.Nameless m.name m.handle)
    (fits : ∀ m ∈ ms, ∀ reading, m.outcome = .ok reading → reading.series = m.handle.kind.series) :
    ∃ t, r.assemble ms {} = .ok t ∧ r.Exposes ms t := by
  obtain ⟨t, ran, assembled⟩ := assembled_nil.assemble named
  rw [List.nil_append] at assembled
  refine ⟨t, ran, assembled.keys_eq, fun key f found m among => ?_, fun key f found => ?_,
    fun key f found s mem => ?_⟩
  · exact ((assembled.samples_eq agree found).1 m among).1
  · rw [(assembled.samples_eq agree found).2]
    exact List.flatMap_congr fun m among =>
      (samplesAlone_eq (named m (mem_sharing.mp among).1)).symm
  · obtain ⟨alike, samples⟩ := assembled.samples_eq agree found
    rw [samples] at mem
    obtain ⟨m, among, mem⟩ := List.mem_flatMap.mp mem
    obtain ⟨sameSeries, sameName⟩ := alike m among
    obtain ⟨table, reading, named?, read, mem⟩ := Family.mem_samplesOf mem
    refine ⟨m, among, table, named?, ?_⟩
    rw [sameName, sameSeries, ← fits m (mem_sharing.mp among).1 reading read]
    rw [show (r.familyFor m).labelNames =
      Family.labelNamesFor (Label.level? m.name.name).isSome from rfl, Member.zip_labels] at mem
    exact Family.labels_of_readingSamples _ _ _ s mem

end Registry

end StorageMetrics
