import StorageMetrics.Proofs.Exposition.Samples

/-
  Series of several names. A sample carries the labels of its member, and besides at most one more
  that its kind asks for, so a sample tells the keyspace, the table and the level of its name
  (`Member.outlet_of_mem`). It does not tell the label: two spellings of one form give the same
  series. That is the only way for a sample to come twice, as long as no member repeats itself
  (`Registry.samples_keys_nodup`).
-/

namespace StorageMetrics

namespace InstrumentKind

/-- The sample names of a kind by what follows the family's name, each with the names of the labels
besides those of the member. -/
def outlets (kind : InstrumentKind) : List (String × List String) :=
  kind.tails.map fun t => (t.1, t.2.map (·.1))

theorem labels_of_mem_outlets {kind : InstrumentKind} {o : String × List String}
    (mem : o ∈ kind.outlets) : o.2 ∈ [[], ["le"], ["quantile"]] := by
  obtain ⟨t, tail, rfl⟩ := List.mem_map.mp mem
  exact kind.labels_of_mem_tails t tail

end InstrumentKind

/-! ## Labels -/

/-- Where the labels of a name end and those of an outlet begin can be told from the labels. -/
theorem MetricName.labels_append_inj {a b : MetricName} {x y : SampleLabels}
    (known : x.map (·.1) ∈ [[], ["le"], ["quantile"]])
    (known' : y.map (·.1) ∈ [[], ["le"], ["quantile"]])
    (same : a.labels ++ x = b.labels ++ y) : a.labels = b.labels ∧ x = y := by
  have tells : ∀ own ∈ [["keyspace", "scope"], ["keyspace", "scope", "level"]],
      ∀ own' ∈ [["keyspace", "scope"], ["keyspace", "scope", "level"]],
      ∀ tail ∈ [[], ["le"], ["quantile"]], ∀ tail' ∈ [[], ["le"], ["quantile"]],
        own ++ tail = own' ++ tail' → own.length = own'.length := by
    decide +kernel
  have names := congrArg (List.map (·.1)) same
  rw [List.map_append, List.map_append] at names
  have lengths := tells _ a.labels_names _ b.labels_names _ known _ known' names
  rw [List.length_map, List.length_map] at lengths
  exact List.append_inj same lengths

theorem InOrder.of_labels {name : MetricName} {extra : SampleLabels}
    (known : extra.map (·.1) ∈ [[], ["le"], ["quantile"]]) : InOrder (name.labels ++ extra) := by
  unfold InOrder
  rw [List.map_append]
  exact labels_inOrder _ name.labels_names _ known

/-! ## Readings -/

namespace Reading

variable {reading : Reading} {kind : InstrumentKind}

/-- A reading gives samples of its kind's outlets. -/
theorem outlet_of_mem (series : reading.series = kind.series) (family : String)
    (labels : SampleLabels) {s : Sample}
    (mem : s ∈ Family.readingSamples family labels labels reading) :
    ∃ o ∈ kind.outlets, ∃ extra, s.name = family ++ o.1 ∧ s.labels = labels ++ extra ∧
      extra.map (·.1) = o.2 := by
  have bare {ending : String} (outlet : (ending, []) ∈ kind.outlets)
      (named : s.name = family ++ ending) (labelled : s.labels = labels) :
      ∃ o ∈ kind.outlets, ∃ extra, s.name = family ++ o.1 ∧ s.labels = labels ++ extra ∧
        extra.map (·.1) = o.2 :=
    ⟨_, outlet, [], named, by rw [labelled, List.append_nil], rfl⟩
  cases reading with
  | gauge x =>
    obtain rfl : kind = .gauge := by cases kind <;> first | rfl | cases series
    obtain rfl := List.mem_singleton.mp mem
    exact bare (by decide) String.append_empty.symm rfl
  | count n =>
    have outlet : ("_total", []) ∈ kind.outlets := by
      cases kind <;> first | decide | cases series
    obtain rfl := List.mem_singleton.mp mem
    exact bare outlet rfl rfl
  | distribution contents =>
    obtain rfl : kind = .histogram := by cases kind <;> first | rfl | cases series
    obtain inBuckets | rest := List.mem_append.mp mem
    · obtain ⟨bucket, -, rfl⟩ := List.mem_map.mp inBuckets
      exact ⟨("_bucket", ["le"]), by decide +kernel, [("le", bucket.1)], rfl, rfl, rfl⟩
    · split at rest
      case isFalse => cases rest
      case isTrue =>
        obtain rfl | rfl := List.mem_pair.mp rest
        · exact bare (by decide +kernel) rfl rfl
        · exact bare (by decide +kernel) rfl rfl
  | summary count sum quantiles =>
    obtain rfl : kind = .statsHistogram := by cases kind <;> first | rfl | cases series
    obtain rfl | mem := List.mem_cons.mp mem
    · exact bare (by decide) rfl rfl
    · obtain rfl | mem := List.mem_cons.mp mem
      · exact bare (by decide) rfl rfl
      · cases quantiles with
        | error e => cases mem
        | ok qs =>
          obtain ⟨q, -, rfl⟩ := List.mem_map.mp mem
          exact ⟨("", ["quantile"]), by decide, [("quantile", q.1)], String.append_empty.symm, rfl,
            rfl⟩

/-- What is told of buckets and quantiles is told of different ones. -/
def IsDistinct : Reading → Prop
  | distribution contents => (contents.bounds.map Decimal.boundText).Nodup
  | summary _ _ (.ok quantiles) => (quantiles.map (·.1)).Nodup
  | _ => True

/-- Samples that differ in one label only have different keys. -/
theorem keys_of_labelled_nodup {α : Type} (family : String) (labels : SampleLabels) (label : String)
    {xs : List (String × α)} (nodup : (xs.map (·.1)).Nodup) (value : String × α → Value) :
    ((xs.map fun x => (⟨family, labels ++ [(label, x.1)], value x⟩ : Sample)).map
      Sample.key).Nodup := by
  rw [keys_of_labelled]
  refine nodup.map fun text text' same => ?_
  have last := List.append_cancel_left (Prod.mk.inj same).2
  exact (Prod.mk.inj (List.cons.inj last).1).2

/-- The buckets of a histogram go by the texts of its first bounds. -/
theorem bucket_texts_sublist (contents : Histogram) :
    (contents.buckets.map (·.1)).Sublist (contents.bounds.map Decimal.boundText) := by
  rw [Histogram.buckets, List.zip_eq_zip_take_min, List.map_fst_zip]
  · exact List.take_sublist _ _
  · rw [List.length_take, List.length_take]
    omega

/-- No sample of a reading comes twice. -/
theorem keys_nodup (distinct : reading.IsDistinct) (family : String) (labels : SampleLabels) :
    ((Family.readingSamples family labels labels reading).map Sample.key).Nodup := by
  have ended {a b : String} (differ : a ≠ b) : family ++ a ≠ family ++ b :=
    fun same => differ ((String.append_right_inj family).mp same)
  cases reading with
  | gauge x => exact List.nodup_singleton _
  | count n => exact List.nodup_singleton _
  | distribution contents =>
    have buckets := keys_of_labelled_nodup (family ++ "_bucket") labels "le"
      (distinct.sublist (bucket_texts_sublist contents)) fun b => .float (Float.ofNat b.2)
    unfold Family.readingSamples
    dsimp only
    rw [List.map_append]
    refine List.nodup_append.mpr ⟨buckets, ?_, ?_⟩
    · split
      case isTrue => simp [Sample.key]
      case isFalse => exact List.nodup_nil
    · intro key inBuckets key' summed same
      obtain ⟨s, bucket, rfl⟩ := List.mem_map.mp inBuckets
      obtain ⟨b, -, rfl⟩ := List.mem_map.mp bucket
      obtain ⟨s', among, rfl⟩ := List.mem_map.mp summed
      split at among
      case isFalse => cases among
      case isTrue =>
        obtain rfl | rfl := List.mem_pair.mp among
        · exact ended (by decide) (Prod.mk.inj same).1
        · exact ended (by decide) (Prod.mk.inj same).1
  | summary count sum quantiles =>
    have counted : (family ++ "_count", labels) ≠ (family ++ "_sum", labels) :=
      fun same => ended (by decide) (Prod.mk.inj same).1
    have apart {ending : String} (present : ending ≠ "") (extra : SampleLabels) :
        (family ++ ending, labels) ≠ (family, extra) := by
      intro same
      exact present (String.append_eq_left_iff.mp (Prod.mk.inj same).1)
    cases quantiles with
    | error e => simp [Family.readingSamples, Sample.key]
    | ok qs =>
      have several := keys_of_labelled_nodup family labels "quantile" distinct fun q => q.2
      unfold Family.readingSamples
      dsimp only
      rw [List.map_cons, List.map_cons]
      refine List.nodup_cons.mpr ⟨?_, List.nodup_cons.mpr ⟨?_, several⟩⟩
      · intro mem
        obtain same | mem := List.mem_cons.mp mem
        · exact counted same
        · obtain ⟨s, quantile, same⟩ := List.mem_map.mp mem
          obtain ⟨q, -, rfl⟩ := List.mem_map.mp quantile
          exact apart (by decide) _ same.symm
      · intro mem
        obtain ⟨s, quantile, same⟩ := List.mem_map.mp mem
        obtain ⟨q, -, rfl⟩ := List.mem_map.mp quantile
        exact apart (by decide) _ same.symm

end Reading

/-! ## Names that meet -/

namespace Registry

/-- The name that the family of a bound instrument goes by. -/
def familyOf (r : Registry) (name : MetricName) (kind : InstrumentKind) : String :=
  if kind.series = .counter then Family.dropTotal (r.family name.name) else r.family name.name

/-- Two names can be given out as one series by instruments of these kinds: their labels agree, and
a sample name of the one is one of the other. -/
structure Meets (r : Registry) (name : MetricName) (kind : InstrumentKind) (other : MetricName)
    (kind' : InstrumentKind) : Prop where
  labels_eq : name.labels = other.labels
  sampleName : ∃ o ∈ kind.outlets, ∃ o' ∈ kind'.outlets,
    r.familyOf name kind ++ o.1 = r.familyOf other kind' ++ o'.1 ∧ o.2 = o'.2

end Registry

namespace Member

variable {r : Registry} {m n : Member} {s t : Sample}

/-- Whatever the member was read as makes the series of its kind. -/
def Fits (m : Member) : Prop :=
  ∀ reading, m.outcome = .ok reading → reading.series = m.handle.kind.series

/-- Whatever the member was read as, it does not repeat itself. -/
def IsDistinct (m : Member) : Prop := ∀ reading, m.outcome = .ok reading → reading.IsDistinct

theorem reading_of_mem (mem : s ∈ (r.familyFor m).samplesOf m) :
    ∃ reading, m.outcome = .ok reading ∧ s ∈ Family.readingSamples
      (r.familyOf m.name m.handle.kind) m.name.labels m.name.labels reading := by
  obtain ⟨table, reading, located, read, -⟩ := Family.mem_samplesOf mem
  rw [samplesOf_of_table located, read] at mem
  exact ⟨reading, read, mem⟩

theorem outlet_of_mem (fits : m.Fits) (mem : s ∈ (r.familyFor m).samplesOf m) :
    ∃ o ∈ m.handle.kind.outlets, ∃ extra, s.name = r.familyOf m.name m.handle.kind ++ o.1 ∧
      s.labels = m.name.labels ++ extra ∧ extra.map (·.1) = o.2 := by
  obtain ⟨reading, read, mem⟩ := reading_of_mem mem
  exact Reading.outlet_of_mem (fits reading read) _ _ mem

theorem inOrder_of_mem (fits : m.Fits) (mem : s ∈ (r.familyFor m).samplesOf m) :
    InOrder s.labels := by
  obtain ⟨o, outlet, extra, -, labelled, names⟩ := outlet_of_mem fits mem
  rw [labelled]
  refine .of_labels ?_
  rw [names]
  exact InstrumentKind.labels_of_mem_outlets outlet

theorem keys_nodup (distinct : m.IsDistinct) :
    (((r.familyFor m).samplesOf m).map Sample.key).Nodup := by
  cases located : m.name.table? with
  | none =>
    have unread : m.located? = none := by
      unfold located?
      rw [located]
    unfold Family.samplesOf
    rw [unread]
    exact List.nodup_nil
  | some table =>
    rw [samplesOf_of_table located]
    cases read : m.outcome with
    | error e => exact List.nodup_nil
    | ok reading => exact Reading.keys_nodup (distinct reading read) _ _

/-- Members that give one series are bound under names that meet. -/
theorem meets_of_key_eq (fits : m.Fits) (fits' : n.Fits) (mem : s ∈ (r.familyFor m).samplesOf m)
    (mem' : t ∈ (r.familyFor n).samplesOf n) (same : s.key = t.key) :
    r.Meets m.name m.handle.kind n.name n.handle.kind := by
  obtain ⟨o, outlet, extra, named, labelled, names⟩ := outlet_of_mem fits mem
  obtain ⟨o', outlet', extra', named', labelled', names'⟩ := outlet_of_mem fits' mem'
  obtain ⟨sameName, sameLabels⟩ := Prod.mk.inj same
  rw [labelled, labelled'] at sameLabels
  have known := InstrumentKind.labels_of_mem_outlets outlet
  have known' := InstrumentKind.labels_of_mem_outlets outlet'
  rw [← names] at known
  rw [← names'] at known'
  obtain ⟨labels, extras⟩ := MetricName.labels_append_inj known known' sameLabels
  refine ⟨labels, o, outlet, o', outlet', ?_, ?_⟩
  · rw [← named, ← named', sameName]
  · rw [← names, ← names', extras]

end Member

namespace Registry

variable {r : Registry} {ms : List Member}

/-- No key comes twice, be it of one member or of two, where no member repeats itself and no two
names meet. -/
theorem samples_keys_nodup (nodup : (ms.map (·.name)).Nodup) (fits : ∀ m ∈ ms, m.Fits)
    (distinct : ∀ m ∈ ms, m.IsDistinct)
    (apart : ∀ m ∈ ms, ∀ n ∈ ms, r.Meets m.name m.handle.kind n.name n.handle.kind →
      m.name = n.name) :
    ((ms.flatMap fun m => (r.familyFor m).samplesOf m).map Sample.key).Nodup := by
  rw [List.map_flatMap]
  refine List.nodup_flatMap.mpr ⟨fun m mem => Member.keys_nodup (distinct m mem), ?_⟩
  refine (List.pairwise_map.mp nodup).imp_of_mem fun {m n} mem mem' differ => ?_
  intro key here there
  obtain ⟨s, ofFirst, rfl⟩ := List.mem_map.mp here
  obtain ⟨t, ofSecond, same⟩ := List.mem_map.mp there
  exact differ (apart m mem n mem'
    (Member.meets_of_key_eq (fits m mem) (fits n mem') ofFirst ofSecond same.symm))

end Registry

/-- Where labels stand in order, samples of different keys differ in their name or in the set of
their labels. -/
theorem pairwise_of_keys_nodup {samples : List Sample} (nodup : (samples.map Sample.key).Nodup)
    (ordered : ∀ s ∈ samples, InOrder s.labels) :
    samples.Pairwise fun s s' => ¬ (s.name = s'.name ∧ s.labels.Perm s'.labels) := by
  refine (List.pairwise_map.mp nodup).imp_of_mem fun {s s'} mem mem' differ => ?_
  rintro ⟨names, labels⟩
  exact differ (Prod.ext names ((ordered s mem).eq_of_perm (ordered s' mem') labels))

end StorageMetrics
