import StorageMetrics.Host.Context
import StorageMetrics.Proofs.Label
import StorageMetrics.Proofs.Registry.Exact

/-
  The library's own labels: those of the catalog, of surfaces and of throughput, each with the kind
  of instrument that is bound under it. No two of them share a family but the levels, and those
  share one shape; so they never clash in any registry, whatever is bound and unbound
  (`OwnLabel.shape_eq`), and a label tells the kind of its instrument (`OwnLabel.kind_eq`).
-/

namespace StorageMetrics

/-- The kind of instrument that reads a statistic. -/
def StatSource.instrumentKind : StatSource → InstrumentKind
  | histogram _ => .statsHistogram
  | ticker _ => .statsCounter

theorem Instrument.kind_ofSource (statistics : Item) (source : StatSource) :
    (Instrument.ofSource statistics source).kind = source.instrumentKind := by
  cases source <;> rfl

/-- The labels without a level that the library binds, with the kinds of their instruments. -/
def plainLabels : List (String × InstrumentKind) :=
  Catalog.entries.map (fun entry => (entry.label, entry.source.instrumentKind)) ++
    [(Surface.ingestTimeLabel, .histogram), (Surface.ingestWaitLabel, .histogram),
      (Surface.pendingLabel, .gauge), (Surface.liveLabel, .gauge),
      (Surface.iterMoveLabel, .counter), (Surface.iterSeekLabel, .counter),
      (Surface.iterNewLabel, .counter), (Host.outgoingLabel, .gauge), (Host.incomingLabel, .gauge)]

/-- What the library binds under a label of its own. -/
inductive OwnLabel : String → InstrumentKind → Prop where
  | plain {label : String} {kind : InstrumentKind} (mem : (label, kind) ∈ plainLabels) :
      OwnLabel label kind
  | level (n : Nat) : OwnLabel (Surface.levelLabel n) .gauge

/-! ## Families of labels -/

def levelBase : String := "SSTableCountPerLevel"

theorem levelLabel_eq (n : Nat) : Surface.levelLabel n = levelBase ++ "." ++ toString n := by
  have front : "SSTableCountPerLevel." = levelBase ++ "." := by decide +kernel
  exact congrArg (· ++ toString n) front

theorem splitLevel_levelLabel (n : Nat) :
    Label.splitLevel (Surface.levelLabel n) = (levelBase, some (toString n)) := by
  have present : levelBase ≠ "" := by decide +kernel
  have oneLine : '\n' ∉ levelBase.toList := by decide +kernel
  rw [levelLabel_eq]
  exact Label.splitLevel_level present oneLine n

theorem point_not_mem_plain : ∀ l ∈ plainLabels, '.' ∉ l.1.toList := by decide +kernel

theorem splitLevel_plain {label : String} {kind : InstrumentKind}
    (mem : (label, kind) ∈ plainLabels) : Label.splitLevel label = (label, none) :=
  Label.splitLevel_of_no_point (point_not_mem_plain _ mem)

/-- The forms of the plain labels in exported names. -/
def plainForms : List String :=
  ["get_micros", "write_micros", "compaction_time_micros", "subcompaction_setup_time_micros",
    "table_sync_micros", "compaction_outfile_sync_micros", "wal_file_sync_micros",
    "manifest_sync_micros", "table_open_io_micros", "multi_get", "read_block_compaction_micros",
    "read_block_get_micros", "write_raw_block_micros", "stall_l0_slowdown_count",
    "memtable_compaction_count", "stall_l0_num_files_count", "hard_rate_limit_delay_count",
    "soft_rate_limit_delay_count", "num_files_in_single_compaction", "db_seek", "write_stall",
    "sst_read_ms", "num_sub_compactions_scheduled", "bytes_per_read", "bytes_per_write",
    "bytes_per_multiget", "bytes_compressed", "bytes_decompressed", "compression_time_us",
    "decompression_time_us", "read_num_merge_operands", "histogram_enum_max_histogram",
    "compact_read_bytes", "compact_write_bytes", "compaction_key_drop_user",
    "number_keys_written", "memtable_hit", "memtable_miss", "block_cache_hit", "block_cache_miss",
    "stall_micros", "db_mutex_wait_micros", "merge_operation_total_time", "ingest_time",
    "ingest_wait_time", "pending_compaction_bytes", "live_data_size", "rocks_iter_move",
    "rocks_iter_seek", "rocks_iter_new", "rocksdb_outgoing_throughput",
    "rocksdb_incoming_throughput"]

theorem snake_plain : plainLabels.map (fun l => Label.snake l.1) = plainForms := by decide +kernel

theorem snake_levelBase : Label.snake levelBase = "ss_table_count_per_level" := by decide +kernel

/-- No two plain labels are exported alike. -/
theorem plainForms_nodup : plainForms.Nodup := by decide +kernel

theorem levelForm_not_mem : "ss_table_count_per_level" ∉ plainForms := by decide +kernel

/-- A plain label is told by the form in which it is exported. -/
theorem plain_of_snake_eq {label other : String} {kind kind' : InstrumentKind}
    (mem : (label, kind) ∈ plainLabels) (mem' : (other, kind') ∈ plainLabels)
    (same : Label.snake label = Label.snake other) : label = other ∧ kind = kind' := by
  have nodup : (plainLabels.map fun l => Label.snake l.1).Nodup := by
    rw [snake_plain]
    exact plainForms_nodup
  exact Prod.mk.inj (List.inj_on_of_nodup_map nodup mem mem' same)

theorem snake_ne_levelBase {label : String} {kind : InstrumentKind}
    (mem : (label, kind) ∈ plainLabels) : Label.snake label ≠ Label.snake levelBase := by
  rw [snake_levelBase]
  intro same
  have form : Label.snake label ∈ plainLabels.map fun l => Label.snake l.1 :=
    List.mem_map.mpr ⟨(label, kind), mem, rfl⟩
  rw [snake_plain, same] at form
  exact levelForm_not_mem form

namespace OwnLabel

theorem catalog {entry : CatalogEntry} (mem : entry ∈ Catalog.entries) :
    OwnLabel entry.label entry.source.instrumentKind :=
  .plain (List.mem_append_left _ (List.mem_map.mpr ⟨entry, mem, rfl⟩))

theorem base_plain {label : String} {kind : InstrumentKind} (mem : (label, kind) ∈ plainLabels) :
    Label.base label = label := congrArg Prod.fst (splitLevel_plain mem)

theorem level?_plain {label : String} {kind : InstrumentKind} (mem : (label, kind) ∈ plainLabels) :
    Label.level? label = none := congrArg Prod.snd (splitLevel_plain mem)

theorem base_level (n : Nat) : Label.base (Surface.levelLabel n) = levelBase :=
  congrArg Prod.fst (splitLevel_levelLabel n)

theorem level?_level (n : Nat) : Label.level? (Surface.levelLabel n) = some (toString n) :=
  congrArg Prod.snd (splitLevel_levelLabel n)

/-- Own labels of one family have one shape. -/
theorem shape_eq {label other : String} {kind kind' : InstrumentKind} (own : OwnLabel label kind)
    (own' : OwnLabel other kind')
    (same : Label.snake (Label.base label) = Label.snake (Label.base other)) :
    Registry.shapeOf label kind = Registry.shapeOf other kind' := by
  cases own with
  | plain mem =>
    rw [base_plain mem] at same
    cases own' with
    | plain mem' =>
      rw [base_plain mem'] at same
      obtain ⟨rfl, rfl⟩ := plain_of_snake_eq mem mem' same
      rfl
    | level n =>
      rw [base_level] at same
      exact absurd same (snake_ne_levelBase mem)
  | level n =>
    rw [base_level] at same
    cases own' with
    | plain mem' =>
      rw [base_plain mem'] at same
      exact absurd same.symm (snake_ne_levelBase mem')
    | level m =>
      unfold Registry.shapeOf
      rw [level?_level, level?_level]
      rfl

/-- An own label tells the kind of its instrument. -/
theorem kind_eq {label : String} {kind kind' : InstrumentKind} (own : OwnLabel label kind)
    (own' : OwnLabel label kind') : kind = kind' := by
  generalize sameLabel : label = other at own'
  cases own with
  | plain mem =>
    cases own' with
    | plain mem' =>
      have same : Label.snake label = Label.snake other := congrArg _ sameLabel
      exact (plain_of_snake_eq mem mem' same).2
    | level n =>
      have none_ := level?_plain mem
      rw [sameLabel, level?_level] at none_
      cases none_
  | level n =>
    cases own' with
    | plain mem' =>
      have none_ := level?_plain mem'
      rw [← sameLabel, level?_level] at none_
      cases none_
    | level m => rfl

end OwnLabel

end StorageMetrics
