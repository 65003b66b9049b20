/-
  The statistics that the storage engine keeps for each of its instances: histograms of operation
  times and sizes, and tickers that count events. A statistic has a symbol and the engine's own name.
-/

namespace StorageMetrics

/-- A histogram that the engine keeps. The last one is a sentinel that the engine never fills. -/
inductive HistogramStat where
  | dbGet
  | dbWrite
  | compactionTime
  | subcompactionSetupTime
  | tableSyncMicros
  | compactionOutfileSyncMicros
  | walFileSyncMicros
  | manifestFileSyncMicros
  | tableOpenIoMicros
  | dbMultiget
  | readBlockCompactionMicros
  | readBlockGetMicros
  | writeRawBlockMicros
  | stallL0SlowdownCount
  | stallMemtableCompactionCount
  | stallL0NumFilesCount
  | hardRateLimitDelayCount
  | softRateLimitDelayCount
  | numFilesInSingleCompaction
  | dbSeek
  | writeStall
  | sstReadMicros
  | numSubcompactionsScheduled
  | bytesPerRead
  | bytesPerWrite
  | bytesPerMultiget
  | bytesCompressed
  | bytesDecompressed
  | compressionTimesNanos
  | decompressionTimesNanos
  | readNumMergeOperands
  | histogramEnumMax
deriving DecidableEq, Inhabited

namespace HistogramStat

/-- All of them, in the engine's order. -/
def all : List HistogramStat :=
  [.dbGet, .dbWrite, .compactionTime, .subcompactionSetupTime, .tableSyncMicros,
   .compactionOutfileSyncMicros, .walFileSyncMicros, .manifestFileSyncMicros,
   .tableOpenIoMicros, .dbMultiget, .readBlockCompactionMicros, .readBlockGetMicros,
   .writeRawBlockMicros, .stallL0SlowdownCount, .stallMemtableCompactionCount,
   .stallL0NumFilesCount, .hardRateLimitDelayCount, .softRateLimitDelayCount,
   .numFilesInSingleCompaction, .dbSeek, .writeStall, .sstReadMicros,
   .numSubcompactionsScheduled, .bytesPerRead, .bytesPerWrite, .bytesPerMultiget,
   .bytesCompressed, .bytesDecompressed, .compressionTimesNanos, .decompressionTimesNanos,
   .readNumMergeOperands, .histogramEnumMax]

/-- The symbol that callers select it by. -/
def symbol : HistogramStat → String
  | dbGet => "DB_GET"
  | dbWrite => "DB_WRITE"
  | compactionTime => "COMPACTION_TIME"
  | subcompactionSetupTime => "SUBCOMPACTION_SETUP_TIME"
  | tableSyncMicros => "TABLE_SYNC_MICROS"
  | compactionOutfileSyncMicros => "COMPACTION_OUTFILE_SYNC_MICROS"
  | walFileSyncMicros => "WAL_FILE_SYNC_MICROS"
  | manifestFileSyncMicros => "MANIFEST_FILE_SYNC_MICROS"
  | tableOpenIoMicros => "TABLE_OPEN_IO_MICROS"
  | dbMultiget => "DB_MULTIGET"
  | readBlockCompactionMicros => "READ_BLOCK_COMPACTION_MICROS"
  | readBlockGetMicros => "READ_BLOCK_GET_MICROS"
  | writeRawBlockMicros => "WRITE_RAW_BLOCK_MICROS"
  | stallL0SlowdownCount => "STALL_L0_SLOWDOWN_COUNT"
  | stallMemtableCompactionCount => "STALL_MEMTABLE_COMPACTION_COUNT"
  | stallL0NumFilesCount => "STALL_L0_NUM_FILES_COUNT"
  | hardRateLimitDelayCount => "HARD_RATE_LIMIT_DELAY_COUNT"
  | softRateLimitDelayCount => "SOFT_RATE_LIMIT_DELAY_COUNT"
  | numFilesInSingleCompaction => "NUM_FILES_IN_SINGLE_COMPACTION"
  | dbSeek => "DB_SEEK"
  | writeStall => "WRITE_STALL"
  | sstReadMicros => "SST_READ_MICROS"
  | numSubcompactionsScheduled => "NUM_SUBCOMPACTIONS_SCHEDULED"
  | bytesPerRead => "BYTES_PER_READ"
  | bytesPerWrite => "BYTES_PER_WRITE"
  | bytesPerMultiget => "BYTES_PER_MULTIGET"
  | bytesCompressed => "BYTES_COMPRESSED"
  | bytesDecompressed => "BYTES_DECOMPRESSED"
  | compressionTimesNanos => "COMPRESSION_TIMES_NANOS"
  | decompressionTimesNanos => "DECOMPRESSION_TIMES_NANOS"
  | readNumMergeOperands => "READ_NUM_MERGE_OPERANDS"
  | histogramEnumMax => "HISTOGRAM_ENUM_MAX"

/-- The engine's own name of it. -/
def engineName : HistogramStat → String
  | dbGet => "rocksdb.db.get.micros"
  | dbWrite => "rocksdb.db.write.micros"
  | compactionTime => "rocksdb.compaction.times.micros"
  | subcompactionSetupTime => "rocksdb.subcompaction.setup.times.micros"
  | tableSyncMicros => "rocksdb.table.sync.micros"
  | compactionOutfileSyncMicros => "rocksdb.compaction.outfile.sync.micros"
  | walFileSyncMicros => "rocksdb.wal.file.sync.micros"
  | manifestFileSyncMicros => "rocksdb.manifest.file.sync.micros"
  | tableOpenIoMicros => "rocksdb.table.open.io.micros"
  | dbMultiget => "rocksdb.db.multiget.micros"
  | readBlockCompactionMicros => "rocksdb.read.block.compaction.micros"
  | readBlockGetMicros => "rocksdb.read.block.get.micros"
  | writeRawBlockMicros => "rocksdb.write.raw.block.micros"
  | stallL0SlowdownCount => "rocksdb.l0.slowdown.count"
  | stallMemtableCompactionCount => "rocksdb.memtable.compaction.count"
  | stallL0NumFilesCount => "rocksdb.num.files.stall.count"
  | hardRateLimitDelayCount => "rocksdb.hard.rate.limit.delay.count"
  | softRateLimitDelayCount => "rocksdb.soft.rate.limit.delay.count"
  | numFilesInSingleCompaction => "rocksdb.numfiles.in.singlecompaction"
  | dbSeek => "rocksdb.db.seek.micros"
  | writeStall => "rocksdb.db.write.stall"
  | sstReadMicros => "rocksdb.sst.read.micros"
  | numSubcompactionsScheduled => "rocksdb.num.subcompactions.scheduled"
  | bytesPerRead => "rocksdb.bytes.per.read"
  | bytesPerWrite => "rocksdb.bytes.per.write"
  | bytesPerMultiget => "rocksdb.bytes.per.multiget"
  | bytesCompressed => "rocksdb.bytes.compressed"
  | bytesDecompressed => "rocksdb.bytes.decompressed"
  | compressionTimesNanos => "rocksdb.compression.times.nanos"
  | decompressionTimesNanos => "rocksdb.decompression.times.nanos"
  | readNumMergeOperands => "rocksdb.read.num.merge_operands"
  | histogramEnumMax => "rocksdb.histogram.enum.max"

def ofSymbol? (s : String) : Option HistogramStat := all.find? (·.symbol = s)

def ofEngineName? (s : String) : Option HistogramStat := all.find? (·.engineName = s)

end HistogramStat

/-- A count that the engine keeps. -/
inductive TickerStat where
  | compactReadBytes
  | compactWriteBytes
  | compactionKeyDropUser
  | numberKeysWritten
  | memtableHit
  | memtableMiss
  | blockCacheHit
  | blockCacheMiss
  | stallMicros
  | dbMutexWaitMicros
  | mergeOperationTotalTime
deriving DecidableEq, Inhabited

namespace TickerStat

/-- All of them, in the engine's order. -/
def all : List TickerStat :=
  [.compactReadBytes, .compactWriteBytes, .compactionKeyDropUser, .numberKeysWritten,
   .memtableHit, .memtableMiss, .blockCacheHit, .blockCacheMiss, .stallMicros,
   .dbMutexWaitMicros, .mergeOperationTotalTime]

/-- The symbol that callers select it by. -/
def symbol : TickerStat → String
  | compactReadBytes => "COMPACT_READ_BYTES"
  | compactWriteBytes => "COMPACT_WRITE_BYTES"
  | compactionKeyDropUser => "COMPACTION_KEY_DROP_USER"
  | numberKeysWritten => "NUMBER_KEYS_WRITTEN"
  | memtableHit => "MEMTABLE_HIT"
  | memtableMiss => "MEMTABLE_MISS"
  | blockCacheHit => "BLOCK_CACHE_HIT"
  | blockCacheMiss => "BLOCK_CACHE_MISS"
  | stallMicros => "STALL_MICROS"
  | dbMutexWaitMicros => "DB_MUTEX_WAIT_MICROS"
  | mergeOperationTotalTime => "MERGE_OPERATION_TOTAL_TIME"

/-- The engine's own name of it. -/
def engineName : TickerStat → String
  | compactReadBytes => "rocksdb.compact.read.bytes"
  | compactWriteBytes => "rocksdb.compact.write.bytes"
  | compactionKeyDropUser => "rocksdb.compaction.key.drop.user"
  | numberKeysWritten => "rocksdb.number.keys.written"
  | memtableHit => "rocksdb.memtable.hit"
  | memtableMiss => "rocksdb.memtable.miss"
  | blockCacheHit => "rocksdb.block.cache.hit"
  | blockCacheMiss => "rocksdb.block.cache.miss"
  | stallMicros => "rocksdb.stall.micros"
  | dbMutexWaitMicros => "rocksdb.db.mutex.wait.micros"
  | mergeOperationTotalTime => "rocksdb.merge.operation.time.nanos"

def ofSymbol? (s : String) : Option TickerStat := all.find? (·.symbol = s)

def ofEngineName? (s : String) : Option TickerStat := all.find? (·.engineName = s)

end TickerStat

end StorageMetrics
