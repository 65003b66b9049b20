import StorageMetrics.Proofs.Surface.Names

/-
  The shards of a surface among its names. A shard is found by the text of its scope, and that text
  tells the number: no two shards of a table have one scope, and none has the scope of the table
  itself (`isInShard_shardName`, `isInShard_name`). So the names that are found for a number are those
  of this shard if there is one, and none otherwise (`filter_isInShard_nameList`). Their count is told
  by the counts of shards and levels (`length_nameList`).
-/

namespace StorageMetrics

/-- An integer that is written as a count is this count. -/
theorem toString_eq_natCast_iff {n : Nat} {i : Int} : toString i = toString n ↔ i = n := by
  constructor
  · intro same
    cases i with
    | ofNat m =>
      have digits : toString m = toString n := same
      rw [toString_injective digits]
      rfl
    | negSucc m =>
      -- a decimal has no sign
      have written : toString n = "-" ++ toString (m + 1) := same.symm
      have sign : '-' ∈ (toString n).toList := by
        rw [written, String.toList_append]
        exact List.mem_append_left _ (by decide)
      exact absurd (isDigit_of_mem_decimal sign) (by decide)
  · rintro rfl
    rfl

namespace Surface

/-! ## How many names there are -/

theorem length_shardNames (scope : TableScope) (shard : Nat) :
    (shardNames scope shard).length = 43 := by
  rw [shardNames, List.length_map]
  rfl

theorem length_tableLabels (levels : Nat) : (tableLabels levels).length = levels + 7 := by
  simp only [tableLabels, List.length_append, List.length_map, List.length_range, List.length_cons,
    List.length_nil]
  omega

/-- Each shard has the labels of the catalog, and the table seven of its own besides its levels. -/
theorem length_nameList (scope : TableScope) (shards levels : Nat) :
    (nameList scope shards levels).length = 43 * shards + levels + 7 := by
  have ofShards : ((List.range shards).flatMap (shardNames scope)).length = 43 * shards := by
    rw [List.length_flatMap, List.map_congr_left fun shard _ => length_shardNames scope shard,
      List.map_const', List.sum_replicate_nat, List.length_range]
    exact Nat.mul_comm shards 43
  rw [nameList, List.length_append, ofShards, List.length_map, length_tableLabels]
  omega

/-! ## Which shard a name is of -/

variable {scope : TableScope} {i : Int}

/-- The scope of a shard tells its number. -/
theorem isInShard_shardName (label : String) (shard : Nat) :
    isInShard scope.keyspace scope.table (.int i) (scope.shardName label shard) =
      decide (i = shard) := by
  unfold isInShard
  refine decide_eq_decide.mpr ?_
  have texts : (scope.shardName label shard).scope =
      scope.keyspace ++ "." ++ scope.table ++ "_" ++ toString shard := by
    show scope.keyspace ++ "." ++ (scope.table ++ "_" ++ toString shard) = _
    rw [String.append_assoc, String.append_assoc, String.append_assoc, String.append_assoc,
      String.append_assoc]
  rw [texts, String.append_right_inj, eq_comm]
  exact toString_eq_natCast_iff

/-- The table has the scope of no shard, since that of a shard is longer. -/
theorem isInShard_name (label : String) :
    isInShard scope.keyspace scope.table (.int i) (scope.name label) = false := by
  unfold isInShard
  refine decide_eq_false fun same => ?_
  have lengths := congrArg String.length same
  simp only [TableScope.name, TableScope.build, String.length_append] at lengths
  have one : "_".length = 1 := rfl
  omega

theorem filter_isInShard_shardNames (shard : Nat) :
    (shardNames scope shard).filter (isInShard scope.keyspace scope.table (.int i)) =
      if i = shard then shardNames scope shard else [] := by
  have alike : ∀ name ∈ shardNames scope shard,
      isInShard scope.keyspace scope.table (.int i) name = decide (i = shard) := by
    intro name mem
    obtain ⟨label, -, rfl⟩ := List.mem_map.mp mem
    exact isInShard_shardName label shard
  rw [List.filter_congr alike]
  split
  · next same => rw [decide_eq_true same, List.filter_true]
  · next other => rw [decide_eq_false other, List.filter_false]

theorem filter_isInShard_tableNames (labels : List String) :
    (labels.map scope.name).filter (isInShard scope.keyspace scope.table (.int i)) = [] := by
  refine List.filter_eq_nil_iff.mpr fun name mem => ?_
  obtain ⟨label, -, rfl⟩ := List.mem_map.mp mem
  rw [isInShard_name]
  exact Bool.false_ne_true

/-- No name is found for a number that no shard has. -/
theorem filter_isInShard_of_other {shards : Nat} (other : ∀ n < shards, i ≠ n) :
    ((List.range shards).flatMap (shardNames scope)).filter
      (isInShard scope.keyspace scope.table (.int i)) = [] := by
  rw [List.filter_flatMap, List.flatMap_eq_nil_iff]
  intro shard mem
  rw [filter_isInShard_shardNames, if_neg (other shard (List.mem_range.mp mem))]

/-- For the number of a shard its own names are found, each shard being passed over but this one. -/
theorem filter_isInShard_of_lt {n shards : Nat} (inside : n < shards) :
    ((List.range shards).flatMap (shardNames scope)).filter
      (isInShard scope.keyspace scope.table (.int n)) = shardNames scope n := by
  induction shards with
  | zero => exact absurd inside (Nat.not_lt_zero n)
  | succ last ih =>
    rw [List.range_succ, List.flatMap_append, List.filter_append, List.flatMap_singleton,
      filter_isInShard_shardNames]
    rcases Nat.lt_succ_iff_lt_or_eq.mp inside with earlier | rfl
    · have passed : (n : Int) ≠ last := by omega
      rw [ih earlier, if_neg passed, List.append_nil]
    · have before : ∀ m < n, (n : Int) ≠ m := by
        intro m less
        omega
      rw [filter_isInShard_of_other before, if_pos rfl, List.nil_append]

/-- The names that are found for a number among all those of a surface. -/
theorem filter_isInShard_nameList (shards levels : Nat) :
    (nameList scope shards levels).filter (isInShard scope.keyspace scope.table (.int i)) =
      if 0 ≤ i ∧ i < shards then shardNames scope i.toNat else [] := by
  rw [nameList, List.filter_append, filter_isInShard_tableNames, List.append_nil]
  split
  case isTrue here =>
    obtain ⟨n, rfl⟩ := Int.eq_ofNat_of_zero_le here.1
    exact filter_isInShard_of_lt (by omega)
  case isFalse elsewhere =>
    refine filter_isInShard_of_other fun n less same => elsewhere ?_
    omega

end Surface

end StorageMetrics
