import StorageMetrics.Proofs.Exposition.Assembly
import StorageMetrics.Proofs.MetricName
import StorageMetrics.Proofs.Registry.Own

/-
  The series of own labels. A bound instrument is exported as the series of its kind: their sample
  names are the family's with a tail, and some of them have a label more. No family and tail of the
  library spell the same sample name as another family and tail do, although the forms of some
  labels end in `_count` themselves (`ownSeries_nodup`). So a series tells the name that it is bound
  under, however tables and shards are called (`Registry.eq_of_mem_seriesOf`).
-/

namespace StorageMetrics

/-- A sample name and its labels, which tell one sample of a scrape from the others. -/
abbrev SeriesKey := String × SampleLabels

/-- What tells a sample from the others. -/
def Sample.key (s : Sample) : SeriesKey := (s.name, s.labels)

namespace InstrumentKind

/-- The series of an instrument: what follows the family's name, and the labels besides its own. A
gauge and a counter have one; an engine histogram has a count, a sum and three quantiles; a written
histogram has one for each of its bounds, a count and a sum. -/
def tails : InstrumentKind → List SeriesKey
  | gauge => [("", [])]
  | counter | statsCounter => [("_total", [])]
  | statsHistogram => [("_count", []), ("_sum", []), ("", [("quantile", "0.5")]),
      ("", [("quantile", "0.95")]), ("", [("quantile", "0.99")])]
  | histogram => (Histogram.microsecondBounds.map fun b => ("_bucket", [("le", Decimal.boundText b)]))
      ++ [("_count", []), ("_sum", [])]

theorem tails_nodup (kind : InstrumentKind) : kind.tails.Nodup := by
  cases kind <;> decide +kernel

end InstrumentKind

namespace MetricName

/-- The labels that tell a name: its keyspace, its table and its level. -/
def labels (n : MetricName) : SampleLabels :=
  ("keyspace", n.keyspace) :: ("scope", n.table?.getD "") ::
    ((Label.level? n.name).map fun level => ("level", level)).toList

end MetricName

/-- The series of an instrument that is bound under a name. -/
def Registry.seriesOf (r : Registry) (name : MetricName) (kind : InstrumentKind) : List SeriesKey :=
  kind.tails.map fun t => (r.family name.name ++ t.1, name.labels ++ t.2)

/-- The series of the counter of failed evaluations, by gauge. -/
def failureKeys (exportName : Value) (gauges : List String) : List SeriesKey :=
  gauges.map fun gauge => (Host.failureCounterName exportName ++ "_total", [("gauge", gauge)])

/-! ## Sample names -/

/-- What follows a family's name in the sample names of a kind. -/
def InstrumentKind.endings : InstrumentKind → List String
  | gauge => [""]
  | counter | statsCounter => ["_total"]
  | statsHistogram => ["_count", "_sum", ""]
  | histogram => ["_bucket", "_count", "_sum"]

theorem InstrumentKind.ending_of_mem_tails (kind : InstrumentKind) :
    ∀ t ∈ kind.tails, t.1 ∈ kind.endings := by
  cases kind <;> decide +kernel

/-- The forms of own labels with the endings of their kinds. -/
def ownSeries : List (String × String) :=
  (plainForms.zip (plainLabels.map (·.2))).flatMap (fun l => l.2.endings.map (l.1, ·)) ++
    [("ss_table_count_per_level", "")]

theorem ownSeries_nodup : (ownSeries.map fun s => s.1 ++ s.2).Nodup := by decide +kernel

/-- The form of a label without its level. -/
def Label.form (label : String) : String := snake (base label)

theorem OwnLabel.mem_ownSeries {label : String} {kind : InstrumentKind} (own : OwnLabel label kind)
    {ending : String} (mem : ending ∈ kind.endings) : (Label.form label, ending) ∈ ownSeries := by
  cases own with
  | plain known =>
    have forms : plainLabels.map (fun l => (Label.snake l.1, l.2)) =
        plainForms.zip (plainLabels.map (·.2)) := by
      rw [← snake_plain, List.zip_map']
    refine List.mem_append_left _ (List.mem_flatMap.mpr ⟨(Label.snake label, kind), ?_, ?_⟩)
    · rw [← forms]
      exact List.mem_map.mpr ⟨(label, kind), known, rfl⟩
    · rw [Label.form, OwnLabel.base_plain known]
      exact List.mem_map_of_mem mem
  | level n =>
    rw [Label.form, OwnLabel.base_level, snake_levelBase, List.mem_singleton.mp mem]
    exact List.mem_append_right _ List.mem_cons_self

/-- Two series of the library that share a sample name share form and ending. -/
theorem ownSeries_injective {a b : String × String} (mem : a ∈ ownSeries) (mem' : b ∈ ownSeries)
    (same : a.1 ++ a.2 = b.1 ++ b.2) : a = b :=
  List.inj_on_of_nodup_map ownSeries_nodup mem mem' same

/-- Own labels of one form and one level are one label. -/
theorem OwnLabel.eq_of_form_eq {label other : String} {kind kind' : InstrumentKind}
    (own : OwnLabel label kind) (own' : OwnLabel other kind')
    (same : Label.form label = Label.form other)
    (levels : Label.level? label = Label.level? other) : label = other := by
  cases own with
  | plain mem =>
    cases own' with
    | plain mem' =>
      rw [Label.form, Label.form, base_plain mem, base_plain mem'] at same
      exact (plain_of_snake_eq mem mem' same).1
    | level n =>
      rw [level?_plain mem, level?_level] at levels
      cases levels
  | level n =>
    cases own' with
    | plain mem' =>
      rw [level?_level, level?_plain mem'] at levels
      cases levels
    | level m =>
      rw [level?_level, level?_level] at levels
      rw [toString_injective (Option.some.inj levels)]

/-! ## Names of families -/

/-- No form of an own label ends in `_total`, nor is it that of the counter of failures. -/
theorem form_of_own : ∀ form ∈ "ss_table_count_per_level" :: plainForms,
    6 ≤ form.toList.length ∧ ¬ Family.totalSuffix <:+ form.toList ∧
      form ≠ "gauge_evaluation_failures" := by
  decide +kernel

theorem OwnLabel.mem_forms {label : String} {kind : InstrumentKind} (own : OwnLabel label kind) :
    Label.form label ∈ "ss_table_count_per_level" :: plainForms := by
  cases own with
  | plain mem =>
    rw [Label.form, base_plain mem, ← snake_plain]
    exact List.mem_cons_of_mem _ (List.mem_map.mpr ⟨_, mem, rfl⟩)
  | level n =>
    rw [Label.form, base_level, snake_levelBase]
    exact List.mem_cons_self

namespace Registry

variable {r : Registry}

theorem family_eq (r : Registry) (label : String) :
    r.family label = r.exportName.plain ++ "_" ++ Label.form label := rfl

theorem form_eq_of_family_eq {label other : String} (same : r.family label = r.family other) :
    Label.form label = Label.form other := (String.append_right_inj _).mp same

theorem form_append_eq_of_family_append_eq {label other ending ending' : String}
    (same : r.family label ++ ending = r.family other ++ ending') :
    Label.form label ++ ending = Label.form other ++ ending' := by
  have split (label ending : String) : r.family label ++ ending =
      r.exportName.plain ++ "_" ++ (Label.form label ++ ending) := String.append_assoc
  rw [split, split] at same
  exact (String.append_right_inj _).mp same

/-- No family of an own label ends in `_total`. -/
theorem family_total {label : String} {kind : InstrumentKind} (own : OwnLabel label kind) :
    ¬ Family.totalSuffix <:+ (r.family label).toList := by
  obtain ⟨long, other, -⟩ := form_of_own _ own.mem_forms
  intro ends
  refine other (List.suffix_of_suffix_length_le ends ?_ ?_)
  · rw [family_eq, String.toList_append]
    exact List.suffix_append _ _
  · have six : Family.totalSuffix.length = 6 := by decide +kernel
    omega

theorem dropTotal_family {label : String} {kind : InstrumentKind} (own : OwnLabel label kind) :
    Family.dropTotal (r.family label) = r.family label := by
  unfold Family.dropTotal
  dsimp only
  rw [if_neg]
  intro ends
  exact family_total own (List.isSuffixOf_iff_suffix.mp ends)

/-- The counter of failures goes by another name than any family of an own label. -/
theorem family_ne_failures {label : String} {kind : InstrumentKind} (own : OwnLabel label kind) :
    r.family label ≠ Host.failureCounterName r.exportName := by
  obtain ⟨-, -, other⟩ := form_of_own _ own.mem_forms
  intro same
  have split : Host.failureCounterName r.exportName =
      r.exportName.plain ++ "_" ++ "gauge_evaluation_failures" := by
    rw [String.append_assoc]
    rfl
  rw [split] at same
  exact other ((String.append_right_inj _).mp same)

/-- Own labels leave no family without a name. -/
theorem not_nameless {name : MetricName} {h : Handle} (own : OwnLabel name.name h.kind) :
    ¬ r.Nameless name h := by
  intro nameless
  refine family_total (r := r) own ?_
  rw [nameless.2]
  exact List.suffix_refl _

end Registry

/-! ## Series -/

/-- A name that is built for some table, under an own label that stands for this kind. -/
structure OwnName (name : MetricName) (kind : InstrumentKind) : Prop where
  label : OwnLabel name.name kind
  built : ∃ (scope : TableScope) (table : String), name = scope.build name.name table

/-- Own names are told by their labels and forms. -/
theorem OwnName.eq_of_labels_eq {name other : MetricName} {kind kind' : InstrumentKind}
    (own : OwnName name kind) (own' : OwnName other kind')
    (forms : Label.form name.name = Label.form other.name)
    (keyspaces : name.keyspace = other.keyspace) (tables : name.table?.getD "" = other.table?.getD "")
    (levels : Label.level? name.name = Label.level? other.name) : name = other := by
  have labels := own.label.eq_of_form_eq own'.label forms levels
  obtain ⟨scope, table, same⟩ := own.built
  obtain ⟨scope', table', same'⟩ := own'.built
  rw [same, same'] at keyspaces tables
  simp only [TableScope.keyspace_build, TableScope.table?_build, Option.getD_some] at keyspaces tables
  rw [same, same']
  exact TableScope.build_eq_iff.mpr ⟨keyspaces, tables, labels⟩

namespace Registry

variable {r : Registry}

theorem seriesOf_nodup (r : Registry) (name : MetricName) (kind : InstrumentKind) :
    (r.seriesOf name kind).Nodup := by
  refine kind.tails_nodup.map fun t t' same => ?_
  obtain ⟨names, labels⟩ := Prod.mk.inj same
  exact Prod.ext ((String.append_right_inj _).mp names) (List.append_cancel_left labels)

/-- A series tells the name that it is bound under. -/
theorem eq_of_mem_seriesOf {name other : MetricName} {kind kind' : InstrumentKind}
    (own : OwnName name kind) (own' : OwnName other kind') {key : SeriesKey}
    (mem : key ∈ r.seriesOf name kind) (mem' : key ∈ r.seriesOf other kind') : name = other := by
  obtain ⟨t, tail, rfl⟩ := List.mem_map.mp mem
  obtain ⟨t', tail', same⟩ := List.mem_map.mp mem'
  obtain ⟨names, labels⟩ := Prod.mk.inj same
  -- family and tail of both spell one sample name, and there is only one way to split it
  have spelled := (form_append_eq_of_family_append_eq names).symm
  have split := ownSeries_injective (own.label.mem_ownSeries (kind.ending_of_mem_tails t tail))
    (own'.label.mem_ownSeries (kind'.ending_of_mem_tails t' tail')) spelled
  obtain ⟨forms, -⟩ := Prod.mk.inj split
  have leveled : (Label.level? other.name).isSome = (Label.level? name.name).isSome :=
    congrArg Shape.leveled (own'.label.shape_eq own.label forms.symm)
  unfold MetricName.labels at labels
  rw [List.cons_append, List.cons_append, List.cons_append, List.cons_append] at labels
  obtain ⟨keyspaces, labels⟩ := List.cons.inj labels
  obtain ⟨tables, labels⟩ := List.cons.inj labels
  refine own.eq_of_labels_eq own' forms (Prod.mk.inj keyspaces).2.symm
    (Prod.mk.inj tables).2.symm ?_
  cases level : Label.level? name.name with
  | none =>
    rw [level] at leveled
    exact (Option.isNone_iff_eq_none.mp (Option.isSome_eq_false_iff.mp leveled)).symm
  | some digits =>
    rw [level] at leveled labels
    obtain ⟨digits', found⟩ := Option.isSome_iff_exists.mp leveled
    rw [found] at labels ⊢
    exact congrArg some (Prod.mk.inj (List.cons.inj labels).1).2.symm

/-- No series comes twice, be it of one instrument or of two. -/
theorem flatMap_seriesOf_nodup {entries : List (MetricName × Handle)}
    (own : ∀ b ∈ entries, OwnName b.1 b.2.kind) (nodup : (entries.map (·.1)).Nodup) :
    (entries.flatMap fun b => r.seriesOf b.1 b.2.kind).Nodup := by
  refine List.nodup_flatMap.mpr ⟨fun b _ => r.seriesOf_nodup b.1 b.2.kind, ?_⟩
  refine (List.pairwise_map.mp nodup).imp_of_mem fun {b c} mem mem' differ => ?_
  intro key here there
  exact differ (eq_of_mem_seriesOf (own b mem) (own c mem') here there)

end Registry

/-! ## Labels as sets -/

/-- The place of a label among those of a sample. -/
def labelPlace (name : String) : Nat :=
  ["keyspace", "scope", "level", "le", "quantile", "gauge"].idxOf name

/-- The labels stand in the order in which samples carry them, each of them once. -/
def InOrder (labels : SampleLabels) : Prop :=
  (labels.map (·.1)).Pairwise fun a b => labelPlace a < labelPlace b

/-- Of labels in order the set alone tells them. -/
theorem InOrder.eq_of_perm {labels other : SampleLabels} (ordered : InOrder labels)
    (ordered' : InOrder other) (same : labels.Perm other) : labels = other := by
  have places (labels : SampleLabels) (ordered : InOrder labels) :
      labels.Pairwise fun a b => labelPlace a.1 < labelPlace b.1 := by
    unfold InOrder at ordered
    rwa [List.pairwise_map] at ordered
  refine same.eq_of_pairwise (fun a b _ _ before after => ?_) (places _ ordered) (places _ ordered')
  omega

theorem InstrumentKind.labels_of_mem_tails (kind : InstrumentKind) :
    ∀ t ∈ kind.tails, t.2.map (·.1) ∈ [[], ["le"], ["quantile"]] := by
  cases kind <;> decide +kernel

theorem MetricName.labels_names (n : MetricName) :
    n.labels.map (·.1) ∈ [["keyspace", "scope"], ["keyspace", "scope", "level"]] := by
  unfold labels
  cases Label.level? n.name <;> simp

theorem labels_inOrder : ∀ own ∈ [["keyspace", "scope"], ["keyspace", "scope", "level"]],
    ∀ tail ∈ [[], ["le"], ["quantile"]],
      (own ++ tail).Pairwise fun a b => labelPlace a < labelPlace b := by
  decide +kernel

theorem Registry.inOrder_of_mem_seriesOf {r : Registry} {name : MetricName} {kind : InstrumentKind}
    {key : SeriesKey} (mem : key ∈ r.seriesOf name kind) : InOrder key.2 := by
  obtain ⟨t, tail, rfl⟩ := List.mem_map.mp mem
  unfold InOrder
  rw [List.map_append]
  exact labels_inOrder _ name.labels_names _ (kind.labels_of_mem_tails t tail)

theorem inOrder_of_mem_failureKeys {exportName : Value} {gauges : List String} {key : SeriesKey}
    (mem : key ∈ failureKeys exportName gauges) : InOrder key.2 := by
  obtain ⟨gauge, -, rfl⟩ := List.mem_map.mp mem
  exact List.pairwise_singleton _ _

/-- No instrument has a series of the counter of failures. -/
theorem Registry.not_mem_failureKeys {r : Registry} {name : MetricName} {kind : InstrumentKind}
    {key : SeriesKey} (mem : key ∈ r.seriesOf name kind) {exportName : Value}
    {gauges : List String} : key ∉ failureKeys exportName gauges := by
  intro counted
  obtain ⟨t, -, rfl⟩ := List.mem_map.mp mem
  obtain ⟨gauge, -, same⟩ := List.mem_map.mp counted
  have first := (List.cons.inj (Prod.mk.inj same).2).1
  exact absurd (Prod.mk.inj first).1 (by decide)

theorem failureKeys_nodup (exportName : Value) {gauges : List String} (nodup : gauges.Nodup) :
    (failureKeys exportName gauges).Nodup := by
  refine nodup.map fun a b same => ?_
  have first := (List.cons.inj (Prod.mk.inj same).2).1
  exact (Prod.mk.inj first).2

end StorageMetrics
