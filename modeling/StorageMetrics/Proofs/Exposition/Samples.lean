import Mathlib.Data.List.Induction
import StorageMetrics.Proofs.Surface.Series

/-
  The samples of an assembly. Its families, one after the other, hold the samples of all members,
  grouped by family and in each of them in order (`Assembled.samples`). A member adds samples of its
  own series only: all of them where its read went through, and otherwise some of the first
  (`Member.keys_sublist`, `Member.keys_eq`).
-/

namespace StorageMetrics

/-! ## Groups -/

/-- What is sorted into groups, one after the other, is all there. -/
theorem flatMap_filter_perm {α κ : Type} [DecidableEq κ] (key : α → κ) {groups : List κ}
    (nodup : groups.Nodup) {xs : List α} (known : ∀ x ∈ xs, key x ∈ groups) :
    (groups.flatMap fun k => xs.filter fun x => key x = k).Perm xs := by
  induction groups generalizing xs with
  | nil =>
    cases xs with
    | nil => exact .refl _
    | cons x rest => cases known x List.mem_cons_self
  | cons k rest ih =>
    obtain ⟨first, nodup⟩ := List.nodup_cons.mp nodup
    -- the later groups find the same among what the first one has left
    have later : (rest.flatMap fun j => xs.filter fun x => key x = j) =
        rest.flatMap fun j => (xs.filter fun x => !decide (key x = k)).filter fun x => key x = j := by
      refine List.flatMap_congr fun j mem => ?_
      rw [List.filter_filter]
      refine List.filter_congr fun x _ => ?_
      by_cases here : key x = j
      · have other : key x ≠ k := fun same => first (same.symm.trans here ▸ mem)
        simp [here, here ▸ other]
      · simp [here]
    have among : ∀ x ∈ xs.filter fun x => !decide (key x = k), key x ∈ rest := fun x mem => by
      obtain ⟨mem, other⟩ := List.mem_filter.mp mem
      refine (List.mem_cons.mp (known x mem)).resolve_left ?_
      simpa using other
    have left := ih nodup among
    rw [List.flatMap_cons, later]
    exact (left.append_left _).trans (List.filter_append_perm _ xs)

namespace Registry

variable {r : Registry} {ms : List Member} {t : FamilyTable}

theorem nodup_eraseDups (xs : List String) : xs.eraseDups.Nodup := by
  induction xs using List.reverseRecOn with
  | nil => exact List.nodup_nil
  | append_singleton xs x ih =>
    rw [eraseDups_append_singleton]
    split
    case isTrue => exact ih
    case isFalse absent =>
      refine List.nodup_append.mpr ⟨ih, List.nodup_singleton x, fun a mem b mem' same => ?_⟩
      rw [List.mem_singleton.mp mem'] at same
      exact absent (same ▸ List.mem_eraseDups.mp mem)

theorem Assembled.keys_nodup (assembled : r.Assembled ms t) : t.keys.Nodup := by
  rw [assembled.keys_eq]
  exact nodup_eraseDups _

/-- Family by family, the samples of its members. -/
theorem Assembled.samples (assembled : r.Assembled ms t) (agree : r.Agree ms) :
    t.values.flatMap (·.samples) = (ms.map r.key).eraseDups.flatMap fun key =>
      (r.sharing ms key).flatMap fun m => (r.familyFor m).samplesOf m := by
  have each : ∀ e ∈ t.entries, e.2.samples =
      (r.sharing ms e.1).flatMap fun m => (r.familyFor m).samplesOf m := by
    intro e mem
    have found := (OrderedMap.get?_eq_some_iff_mem assembled.keys_nodup).mpr mem
    exact (assembled.samples_eq agree found).2
  rw [← assembled.keys_eq, OrderedMap.values, OrderedMap.keys, List.flatMap_map, List.flatMap_map]
  exact List.flatMap_congr each

/-- All members' samples are there. -/
theorem Assembled.samples_perm (assembled : r.Assembled ms t) (agree : r.Agree ms) :
    (t.values.flatMap (·.samples)).Perm (ms.flatMap fun m => (r.familyFor m).samplesOf m) := by
  have known : ∀ m ∈ ms, r.key m ∈ (ms.map r.key).eraseDups :=
    fun m mem => List.mem_eraseDups.mpr (List.mem_map_of_mem mem)
  have grouped := flatMap_filter_perm r.key (nodup_eraseDups (ms.map r.key)) known
  rw [assembled.samples agree, ← List.flatMap_assoc]
  exact grouped.flatMap_right _

end Registry

/-! ## The samples of a member -/

/-- A histogram of a surface: it has the usual bounds, a count for each of them and a sum. -/
structure Histogram.IsUsual (contents : Histogram) : Prop where
  bounds_eq : contents.bounds = microsecondBounds
  length_counts : contents.counts.length = contents.bounds.length
  isSummed : contents.isSummed = true

namespace Histogram

theorem length_cumulate (start : Nat) (counts : List Nat) :
    (cumulate start counts).length = counts.length := by
  induction counts generalizing start with
  | nil => rfl
  | cons n rest ih => simp [cumulate, ih]

/-- There is one bucket for each bound. -/
theorem IsUsual.bucket_texts {contents : Histogram} (usual : contents.IsUsual) :
    contents.buckets.map (·.1) = microsecondBounds.map Decimal.boundText := by
  have lengths : (cumulate 0 contents.counts).length =
      (contents.bounds.map Decimal.boundText).length := by
    rw [length_cumulate, List.length_map, usual.length_counts]
  rw [buckets, List.map_fst_zip (Nat.le_of_eq lengths.symm), usual.bounds_eq]

end Histogram

namespace Reading

/-- What instruments of surfaces report: the buckets of the usual bounds, three quantiles. -/
def IsUsual : Reading → Prop
  | distribution contents => contents.IsUsual
  | summary _ _ (.ok quantiles) => quantiles.map (·.1) = ["0.5", "0.95", "0.99"]
  | _ => True

variable {reading : Reading} {kind : InstrumentKind}

/-- The keys of samples that differ in one label are those of its texts. -/
theorem keys_of_labelled {α : Type} (family : String) (labels : SampleLabels) (label : String)
    (xs : List (String × α)) (value : String × α → Value) :
    (xs.map fun x => (⟨family, labels ++ [(label, x.1)], value x⟩ : Sample)).map Sample.key =
      (xs.map (·.1)).map fun text => (family, labels ++ [(label, text)]) := by
  rw [List.map_map, List.map_map]
  rfl

/-- A reading gives the first of the series of its kind, all of them if nothing went wrong. -/
theorem keys_of_samples (series : reading.series = kind.series) (usual : reading.IsUsual)
    (family : String) (labels : SampleLabels) :
    ((Family.readingSamples family labels labels reading).map Sample.key).Sublist
        (kind.tails.map fun t => (family ++ t.1, labels ++ t.2)) ∧
      (reading.fault? = none → (Family.readingSamples family labels labels reading).map Sample.key =
        kind.tails.map fun t => (family ++ t.1, labels ++ t.2)) := by
  cases reading with
  | gauge x =>
    have tails : kind.tails = [("", [])] := by cases kind <;> first | rfl | cases series
    simp [tails, Family.readingSamples, Sample.key]
  | count n =>
    have tails : kind.tails = [("_total", [])] := by cases kind <;> first | rfl | cases series
    simp [tails, Family.readingSamples, Sample.key]
  | distribution contents =>
    obtain rfl : kind = .histogram := by cases kind <;> first | rfl | cases series
    have same : (Family.readingSamples family labels labels (.distribution contents)).map Sample.key =
        InstrumentKind.histogram.tails.map fun t => (family ++ t.1, labels ++ t.2) := by
      unfold Family.readingSamples InstrumentKind.tails
      dsimp only
      rw [if_pos usual.isSummed, List.map_append, keys_of_labelled, usual.bucket_texts,
        List.map_append, List.map_map, List.map_map]
      simp [Sample.key, Function.comp_def]
    rw [same]
    exact ⟨.refl _, fun _ => rfl⟩
  | summary count sum quantiles =>
    obtain rfl : kind = .statsHistogram := by cases kind <;> first | rfl | cases series
    cases quantiles with
    | error e => simp [Family.readingSamples, Sample.key, InstrumentKind.tails, fault?]
    | ok qs =>
      have texts : qs.map (·.1) = ["0.5", "0.95", "0.99"] := usual
      have same : (Family.readingSamples family labels labels (.summary count sum (.ok qs))).map
          Sample.key =
            InstrumentKind.statsHistogram.tails.map fun t => (family ++ t.1, labels ++ t.2) := by
        unfold Family.readingSamples InstrumentKind.tails
        dsimp only
        rw [List.map_cons, List.map_cons, keys_of_labelled, texts]
        simp [Sample.key]
      rw [same]
      exact ⟨.refl _, fun _ => rfl⟩

end Reading

namespace Member

variable {r : Registry} {m : Member}

theorem labels_of_table {table : String} (located : m.name.table? = some table) :
    m.labels table = m.name.labels := by
  unfold labels MetricName.labels
  rw [located]
  rfl

/-- A member adds the samples of its reading, with its labels. -/
theorem samplesOf_of_table {table : String} (located : m.name.table? = some table) :
    (r.familyFor m).samplesOf m = match m.outcome with
      | .ok reading => Family.readingSamples (r.familyFor m).name m.name.labels m.name.labels reading
      | .error _ => [] := by
  have labelled : (r.familyFor m).labelNames.zip
      (Family.labelValues m.name.keyspace table m.name.name) = m.name.labels := by
    rw [← labels_of_table located, ← zip_labels]
    rfl
  unfold Family.samplesOf located?
  rw [located]
  cases m.outcome with
  | error e => rfl
  | ok reading =>
    dsimp only
    unfold Family.memberSamples
    dsimp only
    rw [labelled, zip_labels, labels_of_table located]

/-- A member of an own name adds them under its family. -/
theorem samplesOf_familyFor (own : OwnName m.name m.handle.kind) :
    (r.familyFor m).samplesOf m = match m.outcome with
      | .ok reading => Family.readingSamples (r.family m.name.name) m.name.labels m.name.labels reading
      | .error _ => [] := by
  obtain ⟨scope, table, built⟩ := own.built
  have located : m.name.table? = some table := by
    rw [built]
    exact scope.table?_build _ table
  have named : (r.familyFor m).name = r.family m.name.name := by
    unfold Registry.familyFor Registry.key
    dsimp only
    rw [Registry.dropTotal_family own.label, ite_self]
  rw [samplesOf_of_table located, named]

/-- The member was read, and nothing went wrong. -/
def isRead (m : Member) : Bool :=
  match m.outcome with
  | .ok reading => reading.fault?.isNone
  | .error _ => false

theorem exists_of_isRead (isRead : m.isRead = true) :
    ∃ reading, m.outcome = .ok reading ∧ reading.fault? = none := by
  unfold Member.isRead at isRead
  cases read : m.outcome with
  | ok reading =>
    rw [read] at isRead
    exact ⟨reading, rfl, Option.isNone_iff_eq_none.mp isRead⟩
  | error e =>
    rw [read] at isRead
    cases isRead

/-- Whatever the member was read as is what instruments of its kind report. -/
def IsUsual (m : Member) : Prop :=
  ∀ reading, m.outcome = .ok reading → reading.series = m.handle.kind.series ∧ reading.IsUsual

/-- A member adds samples of its own series, each of them once at most. -/
theorem keys_sublist (own : OwnName m.name m.handle.kind) (usual : m.IsUsual) :
    (((r.familyFor m).samplesOf m).map Sample.key).Sublist
      (r.seriesOf m.name m.handle.kind) := by
  rw [samplesOf_familyFor own]
  cases read : m.outcome with
  | error e => exact List.nil_sublist _
  | ok reading =>
    obtain ⟨series, isUsual⟩ := usual reading read
    exact (Reading.keys_of_samples series isUsual _ _).1

/-- A member that was read adds all of its series. -/
theorem keys_eq (own : OwnName m.name m.handle.kind) (usual : m.IsUsual)
    (isRead : m.isRead = true) :
    ((r.familyFor m).samplesOf m).map Sample.key = r.seriesOf m.name m.handle.kind := by
  obtain ⟨reading, read, faultless⟩ := exists_of_isRead isRead
  obtain ⟨series, isUsual⟩ := usual reading read
  rw [samplesOf_familyFor own, read]
  exact (Reading.keys_of_samples series isUsual _ _).2 faultless

end Member

namespace Registry

variable {r : Registry} {ms : List Member} {t : FamilyTable}

/-- A family of own names is called by its key. -/
theorem Assembled.name_eq (assembled : r.Assembled ms t)
    (own : ∀ m ∈ ms, OwnName m.name m.handle.kind) {key : String} {f : Family}
    (found : t.get? key = some f) : f.name = key := by
  obtain ⟨m, among, same, made⟩ := assembled.get?_eq key f found
  rw [made, Family.foldl_extend]
  unfold familyFor
  dsimp only
  rw [Registry.key, dropTotal_family (own m among).label, ite_self]
  exact same

theorem Assembled.names_eq (assembled : r.Assembled ms t)
    (own : ∀ m ∈ ms, OwnName m.name m.handle.kind) : t.values.map (·.name) = t.keys := by
  rw [OrderedMap.values, OrderedMap.keys, List.map_map]
  refine List.map_congr_left fun e mem => ?_
  exact assembled.name_eq own ((OrderedMap.get?_eq_some_iff_mem assembled.keys_nodup).mpr mem)

end Registry

end StorageMetrics
