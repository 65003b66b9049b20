import StorageMetrics.Host.Mark

/-
  Parts of items of which more than the kind is known, kind by kind. Some are one thing for as long
  as their owner has them, some are there only once for all owners, and others are made anew whenever
  somebody asks.
-/

namespace StorageMetrics.Item

open Host

/-! ## Ways to have a part -/

/-- A part that is one thing, though only its content is known. -/
def lasting (owner : Item) (name : String) (c : Content) : Action (Option Item) := do
  return some (← keepAt (.part owner name) c)

def lastingValue (owner : Item) (name : String) (v : Value) : Action (Option Item) :=
  lasting owner name (.plain v)

def lastingText (owner : Item) (name text : String) : Action (Option Item) :=
  lasting owner name (.plain (.str text))

/-- A text that the library has only once. -/
def constantText (text : String) : Action (Option Item) := do
  return some (← keepAt (.constant text) (.plain (.str text)))

/-- A part that is made for whoever asks. -/
def made (c : Content) : Action (Option Item) := do return some (← keepNew c)

/-- What is there already. -/
def known (item : Item) : Action (Option Item) := return some item

/-- The text of an export name; the usual one is there only once. -/
def exportNamePart (owner : Item) (exportName : Value) : Action (Option Item) :=
  match exportName with
  | .str s =>
    if s = Settings.defaultExportName then constantText s else lastingText owner "namespace" s
  | v => lastingValue owner "namespace" v

/-- The row without members is there only once. -/
def emptyRow : Action (Option Item) := do return some (← keepAt (.constant "()") (.items "tuple" []))

/-- The names that are left of a surface, in a row. -/
def namesOf (id : Nat) (s : Surface) : Action (Option Item) := do
  match ← (surface id).mark? "_identities" with
  | some marked =>
    match ← Action.ofExcept (((← marked.plain?).getD .none).members.mapError .number) with
    | [] => emptyRow
    | members => made (.row "tuple" members)
  | none =>
    match s.placed with
    | [] => emptyRow
    | placed => made (.items "tuple" (placed.map fun p => .name id p.2))

def surfacePart (id : Nat) (s : Surface) (part : String) : Action (Option Item) :=
  match part with
  | "factory" => known (scope id)
  | "table" => known (table id)
  | "num_shards" => lastingValue (surface id) part (.int s.shards)
  | "identities" => namesOf id s
  | "_identities" => known (store .ownNames id)
  | "_engine" => known s.engine
  | "registry" => known (registry s.registry)
  | "sstable_count_per_level" => known (store .levelGauges id)
  | "ingest_time_histogram" => known (instrument s.ingestTime)
  | "ingest_wait_time_histogram" => known (instrument s.ingestWait)
  | "pending_compaction_bytes" => known (instrument s.pending)
  | "estimate_live_data_size" => known (instrument s.live)
  | "iter_move" => known (instrument s.iterMove)
  | "iter_seek" => known (instrument s.iterSeek)
  | "iter_new" => known (instrument s.iterNew)
  | _ => return none

def tablePart (id : Nat) (s : Surface) (part : String) : Action (Option Item) :=
  match part with
  | "keyspace" => lastingText (table id) part s.scope.keyspace
  | "name" => lastingText (table id) part s.scope.table
  | "table_id" => lastingValue (table id) part s.tableId
  | _ => return none

/-- A scope takes its texts from its table. -/
def scopePart (id : Nat) (s : Surface) (part : String) : Action (Option Item) :=
  match part with
  | "keyspace_name" => tablePart id s "keyspace"
  | "table_name" => tablePart id s "name"
  | _ => return none

/-- The labels of levels are made with their surface; all others are there only once. -/
def labelPart (owner : Item) (label : String) : Action (Option Item) :=
  if (Label.level? label).isSome then lastingText owner "name" label else constantText label

def namePart (surface index : Nat) (n : MetricName) (part : String) : Action (Option Item) :=
  let owner := Item.name surface index
  match part with
  | "group" => constantText n.group
  | "type" => constantText n.type
  | "name" => labelPart owner n.name
  | "scope" => lastingText owner part n.scope
  | "mbean_name" => lastingText owner part n.flat
  | "keyspace" => made (.plain (.str n.keyspace))
  | "table" =>
    match n.table? with
    | some t => made (.plain (.str t))
    | none => throw .noTable
  | _ => return none

def contextPart (id : Nat) (c : Context) (part : String) : Action (Option Item) :=
  match part with
  | "settings" => known (settings id)
  | "engine" => known c.engine
  | "registry" => known (registry c.registry)
  | "throughput" => known c.flow
  | "outgoing_throughput" => known (instrument c.outgoing)
  | "incoming_throughput" => known (instrument c.incoming)
  | _ => return none

/-- The usual window is there only once. -/
def windowSecondsPart (owner : Item) (span : Value) : Action (Option Item) := do
  if span.kindName = "float" && span.same (.float Settings.defaultWindowSeconds) then
    return some (← keepAt (.constant "window") (.plain span))
  else lastingValue owner "throughput_window_seconds" span

def settingsPart (id : Nat) (s : Settings) (part : String) : Action (Option Item) :=
  let owner := settings id
  match part with
  | "max_levels" => lastingValue owner part s.maxLevels
  | "namespace" => exportNamePart owner (.str s.exportName)
  | "throughput_window_seconds" => windowSecondsPart owner s.windowSeconds
  | "strict" => lastingValue owner part s.strict
  | _ => return none

def registryPart (id : Nat) (r : AttachedRegistry) (part : String) : Action (Option Item) :=
  match part with
  | "namespace" => exportNamePart (registry id) r.registry.exportName
  | "gauge_failures" => return r.failures.map series
  | "_collector_registry" => known (target r.target)
  | "collector_registry" => do
    return some ((← (registry id).mark? "_collector_registry").getD (target r.target))
  | "_collector" => known (collector id)
  | "_metrics" => known (store .bindings id)
  | "_family_types" => known (store .familyShapes id)
  | "_family_members" => known (store .familySizes id)
  | _ => return none

/-- The name of the series inside of counters and histograms. -/
def innerName : String := "rocksmetrics_handle"

/-- What is said of a series: the name that it was made under, its type, text and label names. -/
def describedPart (owner : Item) (name type doc : String) (labelNames : List String)
    (part : String) : Action (Option Item) := do
  match part with
  | "_name" | "_original_name" =>
    if name = innerName then constantText name else lastingText owner "_name" name
  | "_documentation" => constantText doc
  | "_type" => constantText type
  | "_namespace" | "_subsystem" | "_unit" => lastingText owner part ""
  | "_labelnames" =>
    if labelNames.isEmpty then emptyRow
    else
      let names ← labelNames.mapM fun l => keepAt (.constant l) (.plain (.str l))
      lasting owner part (.items "tuple" names)
  | "_labelvalues" => emptyRow
  | "_kwargs" => lasting owner part (.sized "dict" 0)
  | _ => return none

def seriesPart (id : Nat) (s : LabelledSeries) (part : String) : Action (Option Item) :=
  match part with
  | "_metrics" => known (store .children id)
  | _ =>
    describedPart (series id) s.name (if s.isCounter then "counter" else "gauge") s.doc s.labelNames
      part

/-- The bounds of buckets; the usual ones are there only once. -/
def boundItems (h : Handle) (bounds : List Float) : Action (List Item) :=
  let isUsual := bounds.map Decimal.text = Histogram.secondBounds.map Decimal.text
  bounds.zipIdx.mapM fun (x, index) =>
    let name := "bound " ++ toString index
    keepAt (if isUsual then .constant name else .part (inner h) name) (.plain (.float x))

def innerPart (h : Handle) (i : Instrument) (part : String) : Action (Option Item) :=
  let described := describedPart (inner h) innerName i.kind.series.text
    ("rocksmetrics " ++ i.kind.series.text ++ " handle") [] part
  match i, part with
  | .counter _, "_value" => known (total h)
  | .histogram _, "_sum" => known (total h)
  | .histogram c, "_upper_bounds" => do
    lasting (inner h) part (.items "list" (← boundItems h c.bounds))
  | .histogram c, "_buckets" => lasting (inner h) part (.sized "list" c.bounds.length)
  | .histogram _, "_kwargs" => lasting (inner h) part (.sized "dict" 1)
  | _, _ => described

def instrumentPart (h : Handle) (i : Instrument) (part : String) : Action (Option Item) :=
  match part, i with
  | "kind", i => known (metricKind i.kind.metricKind)
  | "stats", .statsCounter item _ | "stats", .statsHistogram item _ => known item
  | "ticker_type", .statsCounter _ stat => known (statSource (.ticker stat))
  | "histogram_type", .statsHistogram _ stat => known (statSource (.histogram stat))
  | "biased", .histogram contents => lastingValue (instrument h) part contents.biased
  | "_counter", .counter _ | "_histogram", .histogram _ => known (inner h)
  | "_fn", .gauge .. => lasting (instrument h) part (.action "function" part (instrument h))
  | _, _ => return none

/-- The running total; the zero to start from is there only once. -/
def totalPart (h : Handle) (i : Instrument) (part : String) : Action (Option Item) :=
  let value (v : Value) : Action (Option Item) := do
    if v.kindName = "float" && v.shown = "0.0" then
      return some (← keepAt (.constant "total") (.plain v))
    else lastingValue (total h) part v
  match part, i with
  | "_value", .counter x => value x
  | "_value", .histogram contents => value contents.total
  | _, _ => return none

def statisticsPart (id : Nat) (s : Statistics) (part : String) : Action (Option Item) :=
  match part with
  | "tickers" => known (store .tickers id)
  | "histograms" => known (store .histograms id)
  | "histogram_reads" => lastingValue (statistics id) part (.int s.histogramReads)
  | "ticker_reads" => lastingValue (statistics id) part (.int s.tickerReads)
  | _ => return none

def enginePart (id : Nat) (e : Engine) (part : String) : Action (Option Item) :=
  match part with
  | "sstables" => known (store .levelFiles id)
  | "pending" => known (store .pending id)
  | "live_size" => known (store .live id)
  | "failing_levels" => lasting (engine id) part (.keys e.failingLevels)
  | "fail_all" => lastingValue (engine id) part e.failing
  | _ => return none

def trackerPart (id : Nat) (t : Throughput) (part : String) : Action (Option Item) :=
  match part with
  | "window_seconds" => lastingValue (tracker id) part (.float t.outgoing.span)
  | "_outgoing" => known (window id .outgoing)
  | "_incoming" => known (window id .incoming)
  | _ => return none

def windowPart (id : Nat) (d : Direction) (w : Window) (part : String) : Action (Option Item) :=
  match part with
  | "_window" => lastingValue (tracker id) "window_seconds" (.float w.span)
  | "_total" => lastingValue (window id d) part w.total.toValue
  | "_clock" => lasting (tracker id) part (.ofKind "function")
  | "_events" => known (store (if d = .outgoing then .outgoingTransfers else .incomingTransfers) id)
  | _ => return none

/-- The text that a member of an enumeration shows, or what was put in the place of it. -/
def shownText (owner : Item) (kept text : String) : Action (Option Item) := do
  if let some marked ← owner.mark? kept then return some marked
  constantText text

/-- A member of an enumeration has its name and its value, and reaches the other members. -/
def memberPart (owner : Item) (symbol text : String) (other : String → Option Item) (part : String) :
    Action (Option Item) :=
  match part with
  | "name" => shownText owner "_name_" symbol
  | "value" => shownText owner "_value_" text
  | "_name_" => constantText symbol
  | "_value_" => constantText text
  | _ => return other part

/-- The kind of instrument of this symbol. -/
def kindOfSymbol (symbol : String) : Option Item :=
  (MetricKind.all.find? (·.symbol = symbol)).map metricKind

/-- The parts of a plain value: those of a number are numbers. -/
def valuePart (owner : Item) (v : Value) (part : String) : Action (Option Item) :=
  match v, part with
  | .int _, "real" | .int _, "numerator" | .float _, "real" => known owner
  | .bool b, "real" | .bool b, "numerator" => known (value (.int b.toNat))
  | .int _, "imag" | .bool _, "imag" => known (value (.int 0))
  | .int _, "denominator" | .bool _, "denominator" => known (value (.int 1))
  | .float _, "imag" => made (.plain (.float 0))
  | .other "type" shown _, "__name__" =>
    if (attributes shown).isEmpty then made (.plain (.str shown)) else constantText shown
  | .other "type" shown _, part =>
    match PartTable.kindOf? (ownParts shown) part with
    | some "method" => lasting owner part (.ofKind "function")
    | some kind => if kind = skill then lasting owner part (.ofKind "method_descriptor") else return none
    | none => return none
  | .other "EnumType" shown _, "__name__" => constantText shown
  | .other "EnumType" shown _, symbol =>
    return match shown with
      | "MetricKind" => kindOfSymbol symbol
      | _ => (StatSource.ofSymbol? (shown = "HistogramType") symbol).map statSource
  | _, _ => return none

/-- The query that the function of a guarded gauge has inside. -/
def guardedPart (function : Item) (h : Handle) : Action (Option Item) := do
  match ← getInstrument h with
  | .gauge (.rate (.rates id outgoing incoming) d) (some _) =>
    lasting (.rates id outgoing incoming) d.partName (.ofKind "function")
  | .gauge (.thing item) (some _) => known item
  | .gauge (.rate flow d) (some _) => lasting function "__wrapped__" (.action "method" d.partName flow)
  | .gauge _ (some _) => lasting function "__wrapped__" (.ofKind "function")
  | _ => return none

def contentPart (owner : Item) (c : Content) (part : String) : Action (Option Item) :=
  match c, part with
  | .plain v, part => valuePart owner v part
  | .action "function" _ (.instrument h), "__wrapped__" => guardedPart owner h
  | .action "function" .., _ => return none
  | .action _ _ owner, "__self__" => known owner
  | .action kind part _, "__name__" =>
    if kind = "method" then constantText part else made (.plain (.str part))
  | _, _ => return none

/-- The part of this name, where more than its kind can be told. -/
def ownPart (item : Item) (part : String) : Action (Option Item) := do
  match item with
  | surface id => surfacePart id (← getSurface id) part
  | scope id => scopePart id (← getSurface id) part
  | table id => tablePart id (← getSurface id) part
  | name id index =>
    match (← getSurface id).names[index]? with
    | some n => namePart id index n part
    | none => return none
  | context id => contextPart id (← getContext id) part
  | settings id => settingsPart id (← getContext id).settings part
  | registry id => registryPart id (← getRegistry id) part
  | collector id =>
    match part with
    | "_owner" => known (registry id)
    | "namespace" =>
      if (← item.mark? "_owner").isSome then throw .noPart
      exportNamePart (registry id) (← getRegistry id).registry.exportName
    | _ => return none
  | target id =>
    match part with
    | "_collector_to_names" => known (store .collectors id)
    | "_names_to_collectors" => known (store .claims id)
    | _ => return none
  | series id => seriesPart id (← getSeries id) part
  | instrument h => instrumentPart h (← getInstrument h) part
  | inner h => innerPart h (← getInstrument h) part
  | total h => totalPart h (← getInstrument h) part
  | statistics id => statisticsPart id (← getStatistics id) part
  | engine id => enginePart id (← getEngine id) part
  | tracker id => trackerPart id (← getTracker id) part
  | window id d => windowPart id d ((← getTracker id).window d) part
  | metricKind k => memberPart item k.symbol k.text kindOfSymbol part
  | statSource s =>
    memberPart item s.symbol s.engineName
      (fun symbol => (StatSource.ofSymbol? s.isHistogram symbol).map statSource) part
  | kept _ | value _ =>
    match ← item.content? with
    | some c => contentPart item c part
    | none => return none
  | rates .. | store .. | parts _ => return none

end StorageMetrics.Item
