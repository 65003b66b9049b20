import StorageMetrics.Proofs.MetricName
import StorageMetrics.Proofs.Surface.Labels

/-
  The names of a surface. They are told apart by shard and label, and those of the table by label, so
  no name comes twice (`nameList_nodup`), and two surfaces share a name only if they are of one scope
  (`scope_eq_of_mem_nameList`). Their labels are those of the catalog and of tables, hence no name of
  throughput is among them (`rateName_not_mem_nameList`).
-/

namespace StorageMetrics

namespace Surface

/-! ## Labels of tables -/

theorem levelLabel_injective : Function.Injective levelLabel := by
  intro m n same
  have digits := OwnLabel.level?_level m
  rw [same, OwnLabel.level?_level] at digits
  exact (toString_injective (Option.some.inj digits)).symm

theorem level?_tableLabels : ∀ label ∈ tableLabels 0, Label.level? label = none := by
  decide +kernel

/-- The labels of a table are a few fixed ones, and one for each level. -/
theorem tableLabels_perm (count : Nat) :
    (tableLabels count).Perm (tableLabels 0 ++ (List.range count).map levelLabel) := by
  unfold tableLabels
  rw [List.append_assoc, List.append_assoc]
  refine List.Perm.append_left _ ?_
  exact List.perm_append_comm

theorem mem_tableLabels {label : String} {count : Nat} :
    label ∈ tableLabels count ↔ label ∈ tableLabels 0 ∨ ∃ n < count, levelLabel n = label := by
  rw [(tableLabels_perm count).mem_iff, List.mem_append, List.mem_map]
  simp only [List.mem_range]

theorem tableLabels_nodup (count : Nat) : (tableLabels count).Nodup := by
  rw [(tableLabels_perm count).nodup_iff]
  refine List.nodup_append.mpr ⟨by decide +kernel, ?_, ?_⟩
  · exact List.nodup_range.map levelLabel_injective
  · rintro label fixed _ level rfl
    obtain ⟨n, -, rfl⟩ := List.mem_map.mp level
    have none_ := level?_tableLabels _ fixed
    rw [OwnLabel.level?_level] at none_
    cases none_

/-! ## Labels of tables and of the catalog -/

theorem levelLabel_not_mem_labels (n : Nat) : levelLabel n ∉ Catalog.labels := by
  intro mem
  obtain ⟨entry, known, same⟩ := List.mem_map.mp mem
  have plain : (entry.label, entry.source.instrumentKind) ∈ plainLabels :=
    List.mem_append_left _ (List.mem_map.mpr ⟨entry, known, rfl⟩)
  have none_ := OwnLabel.level?_plain plain
  rw [same, OwnLabel.level?_level] at none_
  cases none_

theorem tableLabel_not_mem_labels {label : String} {count : Nat}
    (mem : label ∈ tableLabels count) : label ∉ Catalog.labels := by
  have fixed : ∀ l ∈ tableLabels 0, l ∉ Catalog.labels := by decide +kernel
  rcases mem_tableLabels.mp mem with plain | ⟨n, -, rfl⟩
  · exact fixed label plain
  · exact levelLabel_not_mem_labels n

/-! ## Names -/

theorem shardTable_injective (scope : TableScope) : Function.Injective scope.shardTable := by
  intro m n same
  exact toString_injective ((String.append_right_inj _).mp same)

/-- A scope with one of its tables tells which table it is. -/
theorem table_of_build_eq {scope : TableScope} {label other table table' : String}
    (same : scope.build label table = scope.build other table') : label = other ∧ table = table' := by
  have labels : label = other := congrArg MetricName.name same
  have scopes : scope.keyspace ++ "." ++ table = scope.keyspace ++ "." ++ table' :=
    congrArg MetricName.scope same
  exact ⟨labels, (String.append_right_inj _).mp scopes⟩

/-- A shard of a table goes by another name than the table. -/
theorem shardTable_ne (scope : TableScope) (shard : Nat) : scope.shardTable shard ≠ scope.table := by
  intro same
  have lengths := congrArg String.length same
  rw [TableScope.shardTable, String.length_append, String.length_append] at lengths
  have one : "_".length = 1 := rfl
  omega

theorem name_injective (scope : TableScope) : Function.Injective scope.name :=
  fun _ _ same => (table_of_build_eq same).1

theorem shardNames_nodup (scope : TableScope) (shard : Nat) : (shardNames scope shard).Nodup :=
  Catalog.labels_nodup.map fun _ _ same => (table_of_build_eq same).1

/-- The names of a surface are distinct. -/
theorem nameList_nodup (scope : TableScope) (shards count : Nat) :
    (nameList scope shards count).Nodup := by
  refine List.nodup_append.mpr ⟨List.nodup_flatMap.mpr ⟨?_, ?_⟩, ?_, ?_⟩
  · exact fun shard _ => shardNames_nodup scope shard
  · refine List.nodup_range.imp fun {m n} differ => ?_
    rintro name mem mem'
    obtain ⟨label, -, rfl⟩ := List.mem_map.mp mem
    obtain ⟨other, -, same⟩ := List.mem_map.mp mem'
    exact differ (shardTable_injective scope (table_of_build_eq same).2).symm
  · exact (tableLabels_nodup count).map (name_injective scope)
  · rintro name inShard _ ofTable rfl
    obtain ⟨shard, -, inShard⟩ := List.mem_flatMap.mp inShard
    obtain ⟨label, -, rfl⟩ := List.mem_map.mp inShard
    obtain ⟨other, -, same⟩ := List.mem_map.mp ofTable
    exact shardTable_ne scope shard (table_of_build_eq same).2.symm

/-! ## Two surfaces -/

theorem mem_nameList_iff {scope : TableScope} {shards count : Nat} {name : MetricName} :
    name ∈ nameList scope shards count ↔
      (∃ shard < shards, ∃ label ∈ Catalog.labels, scope.shardName label shard = name) ∨
        ∃ label ∈ tableLabels count, scope.name label = name := by
  simp only [nameList, shardNames, List.mem_append, List.mem_flatMap,
    List.mem_range, List.mem_map]

/-- A name of two surfaces is one of the same scope: their shards are told apart by number, and no
table has a label of the catalog. -/
theorem scope_eq_of_mem_nameList {scope scope' : TableScope} {shards shards' count count' : Nat}
    {name : MetricName} (mem : name ∈ nameList scope shards count)
    (mem' : name ∈ nameList scope' shards' count') : scope = scope' := by
  rcases mem_nameList_iff.mp mem with ⟨shard, -, label, known, rfl⟩ | ⟨label, known, rfl⟩ <;>
    rcases mem_nameList_iff.mp mem' with ⟨shard', -, label', known', same⟩ | ⟨label', known', same⟩
  · exact (TableScope.shardName_inj same).1.symm
  · obtain rfl : label' = label := congrArg MetricName.name same
    exact absurd known (tableLabel_not_mem_labels known')
  · obtain rfl : label' = label := congrArg MetricName.name same
    exact absurd known' (tableLabel_not_mem_labels known)
  · exact (TableScope.name_inj same).1.symm

/-! ## Names of throughput -/

theorem name_of_mem_nameList {scope : TableScope} {shards count : Nat} {name : MetricName}
    (mem : name ∈ nameList scope shards count) :
    name.name ∈ Catalog.labels ∨ name.name ∈ tableLabels count := by
  rcases List.mem_append.mp mem with inShard | ofTable
  · obtain ⟨shard, -, inShard⟩ := List.mem_flatMap.mp inShard
    obtain ⟨label, known, rfl⟩ := List.mem_map.mp inShard
    exact Or.inl known
  · obtain ⟨label, known, rfl⟩ := List.mem_map.mp ofTable
    exact Or.inr known

theorem rateLabels_own : ∀ label ∈ [Host.outgoingLabel, Host.incomingLabel],
    (label, .gauge) ∈ plainLabels ∧ label ∉ Catalog.labels ∧ label ∉ tableLabels 0 := by
  decide +kernel

/-- No surface has a name of throughput, not even that of a table `all.all`. -/
theorem rateName_not_mem_nameList {name : MetricName}
    (rate : name.name ∈ [Host.outgoingLabel, Host.incomingLabel]) (scope : TableScope)
    (shards count : Nat) : name ∉ nameList scope shards count := by
  intro mem
  obtain ⟨plain, notCatalog, notTable⟩ := rateLabels_own _ rate
  rcases name_of_mem_nameList mem with ofCatalog | ofTable
  · exact notCatalog ofCatalog
  · rcases mem_tableLabels.mp ofTable with same | ⟨n, -, same⟩
    · exact notTable same
    · have none_ := OwnLabel.level?_plain plain
      rw [← same, OwnLabel.level?_level] at none_
      cases none_

end Surface

end StorageMetrics
