import StorageMetrics.Statistic

/-
  The catalog: every engine statistic that is exported per shard, with the label it is exported
  under. Every shard of every table gets the same entries in the same order.
-/

namespace StorageMetrics

/-- What an entry exports. -/
inductive MetricKind where
  | histogram
  | counter
  | gauge
deriving DecidableEq, Inhabited

namespace MetricKind

def all : List MetricKind := [.histogram, .counter, .gauge]

def symbol : MetricKind → String
  | histogram => "HISTOGRAM"
  | counter => "COUNTER"
  | gauge => "GAUGE"

def text : MetricKind → String
  | histogram => "histogram"
  | counter => "counter"
  | gauge => "gauge"

def ofText? (s : String) : Option MetricKind := all.find? (·.text = s)

end MetricKind

/-- The statistic that an entry reads. -/
inductive StatSource where
  | histogram (stat : HistogramStat)
  | ticker (stat : TickerStat)
deriving DecidableEq, Inhabited

namespace StatSource

def ofSymbol? (isHistogram : Bool) (s : String) : Option StatSource :=
  if isHistogram then (HistogramStat.ofSymbol? s).map histogram
  else (TickerStat.ofSymbol? s).map ticker

def isHistogram : StatSource → Bool
  | histogram _ => true
  | ticker _ => false

def symbol : StatSource → String
  | histogram s => s.symbol
  | ticker s => s.symbol

def engineName : StatSource → String
  | histogram s => s.engineName
  | ticker s => s.engineName

end StatSource

/-- A label and the statistic behind it. Histogram entries read histograms, all others tickers. -/
structure CatalogEntry where
  label : String
  kind : MetricKind
  source : StatSource
  fits : source.isHistogram = (kind = .histogram : Bool)
deriving DecidableEq

/-- The refusal of an entry whose source does not fit its kind. -/
structure SourceMismatch where
  label : String
  kind : MetricKind
deriving DecidableEq

def SourceMismatch.message (e : SourceMismatch) : String :=
  e.label ++ ": " ++ e.kind.text ++ " entry needs a " ++
    (if e.kind = .histogram then "HistogramType" else "TickerType") ++ " source"

namespace CatalogEntry

def ofParts (label : String) (kind : MetricKind) (source : StatSource) :
    Except SourceMismatch CatalogEntry :=
  if h : source.isHistogram = (kind = .histogram : Bool) then .ok ⟨label, kind, source, h⟩
  else .error ⟨label, kind⟩

def histogram (label : String) (stat : HistogramStat) : CatalogEntry :=
  ⟨label, .histogram, .histogram stat, rfl⟩

def counter (label : String) (stat : TickerStat) : CatalogEntry :=
  ⟨label, .counter, .ticker stat, rfl⟩

end CatalogEntry

namespace Catalog

open CatalogEntry in
def histograms : List CatalogEntry :=
  [histogram "GetMicros" .dbGet,
   histogram "WriteMicros" .dbWrite,
   histogram "CompactionTimeMicros" .compactionTime,
   histogram "SubcompactionSetupTimeMicros" .subcompactionSetupTime,
   histogram "TableSyncMicros" .tableSyncMicros,
   histogram "CompactionOutfileSyncMicros" .compactionOutfileSyncMicros,
   histogram "WALFileSyncMicros" .walFileSyncMicros,
   histogram "ManifestSyncMicros" .manifestFileSyncMicros,
   histogram "TableOpenIOMicros" .tableOpenIoMicros,
   histogram "MultiGet" .dbMultiget,
   histogram "ReadBlockCompactionMicros" .readBlockCompactionMicros,
   histogram "ReadBlockGetMicros" .readBlockGetMicros,
   histogram "WriteRawBlockMicros" .writeRawBlockMicros,
   histogram "StallL0SlowdownCount" .stallL0SlowdownCount,
   histogram "MemtableCompactionCount" .stallMemtableCompactionCount,
   histogram "StallL0NumFilesCount" .stallL0NumFilesCount,
   histogram "HardRateLimitDelayCount" .hardRateLimitDelayCount,
   histogram "SoftRateLimitDelayCount" .softRateLimitDelayCount,
   histogram "NumFilesInSingleCompaction" .numFilesInSingleCompaction,
   histogram "DbSeek" .dbSeek,
   histogram "WriteStall" .writeStall,
   histogram "SstReadMs" .sstReadMicros,
   histogram "NumSubCompactionsScheduled" .numSubcompactionsScheduled,
   histogram "BytesPerRead" .bytesPerRead,
   histogram "BytesPerWrite" .bytesPerWrite,
   histogram "BytesPerMultiget" .bytesPerMultiget,
   histogram "BytesCompressed" .bytesCompressed,
   histogram "BytesDecompressed" .bytesDecompressed,
   histogram "CompressionTimeUs" .compressionTimesNanos,
   histogram "DecompressionTimeUs" .decompressionTimesNanos,
   histogram "ReadNumMergeOperands" .readNumMergeOperands,
   histogram "HistogramEnumMaxHistogram" .histogramEnumMax]

open CatalogEntry in
def counters : List CatalogEntry :=
  [counter "CompactReadBytes" .compactReadBytes,
   counter "CompactWriteBytes" .compactWriteBytes,
   counter "CompactionKeyDropUser" .compactionKeyDropUser,
   counter "NumberKeysWritten" .numberKeysWritten,
   counter "MemtableHit" .memtableHit,
   counter "MemtableMiss" .memtableMiss,
   counter "BlockCacheHit" .blockCacheHit,
   counter "BlockCacheMiss" .blockCacheMiss,
   counter "StallMicros" .stallMicros,
   counter "DBMutexWaitMicros" .dbMutexWaitMicros,
   counter "MergeOperationTotalTime" .mergeOperationTotalTime]

/-- Histograms first; entries are only ever appended. -/
def entries : List CatalogEntry := histograms ++ counters

def labels : List String := entries.map (·.label)

/-- Each statistic has one label and each label one statistic. -/
theorem labels_nodup : labels.Nodup := by decide +kernel

end Catalog

end StorageMetrics
