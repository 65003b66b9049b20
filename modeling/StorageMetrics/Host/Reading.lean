import StorageMetrics.Host.Item

/-
  Readings: polling a gauge, and reading any instrument. Polling asks the gauge's source anew; a
  guarded gauge never fails, it reports the failure, counts it and gives its default. Where a part
  that is needed was replaced by a mark, the mark is asked instead and the reading fails as it does.
-/

namespace StorageMetrics.Host

def readCell (name : String) : Action Value := do
  match (← get).cells.get? name with
  | some (.ok v) => return v
  | some (.error message) => throw (.cell message)
  | none => throw (.noCell name)

/-! ## Marks in the way -/

/-- Asks an item by a part that cannot answer, or that it has not. -/
def askPart (item : Item) (part : String) : Action α := do
  item.require part
  throw (.number .wrongKind)

/-- Asks the part of an item by one of that part's own. A mark in its place cannot answer. -/
def requireOwn (item : Item) (part asked : String) : Action Unit := do
  match ← item.mark? part with
  | some marked => askPart marked asked
  | none => return ()

/-! ## Sources -/

/-- The rate of one direction, asked for by what was given to ask with. -/
def rateOf (flow : Item) (d : Direction) : Action Value := do
  match flow with
  | .tracker id =>
    requireOwn flow d.windowName "rate"
    let (outcome, t) := (← getTracker id).rate (← get).clock d
    setTracker id t
    return .int (← Action.ofExcept (outcome.mapError .number))
  | .rates _ outgoing incoming => readCell (if d = .outgoing then outgoing else incoming)
  | item => askPart item d.partName

/-- The rate of one direction. -/
def readRate (flow : Item) (d : Direction) : Action Value := do
  flow.requireUnmarked d.partName
  rateOf flow d

/-- The span of a source's window, where it has one. -/
def span (flow : Item) : Action Value := do
  match flow, ← flow.mark? "window_seconds" with
  | _, some marked => return (← marked.plain?).getD .none
  | .tracker id, none => return .float (← getTracker id).outgoing.span
  | _, none => return .none

/-- The levels that fail: those of the engine, or the members of what is in their place. -/
def failingLevels (engine : Item) (e : Engine) : Action (List Value) := do
  match ← engine.markedValue? "failing_levels" with
  | some (.str _) => throw (.number .wrongKind)
  | some v => Action.ofExcept (v.members.mapError .number)
  | none => return e.failingLevels

/-- The engine as it is asked for a level. One that fails altogether is not asked for its levels. -/
def engineForLevel (engine : Item) (e : Engine) : Action Engine := do
  if e.failing.isPresent then return e
  return { e with failingLevels := ← failingLevels engine e }

/-- The answer of an engine to the query of this name. What it keeps is locked and looked up once it
is known that it answers. -/
def askEngine (engine : Item) (query store : String) (f : Engine → Except EngineError Value) :
    Action Value := do
  match engine with
  | .engine id =>
    engine.requireAllUnmarked [query, "_check"]
    let e ← getEngine id
    let e ← if store = "sstables" then engineForLevel engine e else pure e
    let answer := f e
    if !Engine.refuses answer then
      engine.requireUnmarked "_lock"
      requireOwn engine store "get"
    Action.ofExcept (answer.mapError .engine)
  | item => askPart item query

def ask : Query → Action Value
  | .cell name => readCell name
  | .levelCount engine table level =>
    askEngine engine "sstable_count_by_level" "sstables" (·.levelCount table level)
  | .pendingBytes engine table =>
    askEngine engine "pending_compaction_bytes" "pending" (·.pendingBytes table)
  | .liveBytes engine table =>
    askEngine engine "estimated_live_data_size" "live_size" (·.liveBytes table)
  | .rate flow d => rateOf flow d
  | .thing _ => throw (.number .wrongKind)

/-- The report of a failed evaluation. -/
def guardEntry (g : Guard) (e : Fault) : JournalEntry :=
  { severity := .warning, reporter := .guard
    text := g.message.plain ++ " gauge=" ++ g.identity.plain, fault := some e }

/-- Counts a failure under the gauge's identity. A counter that cannot count is left alone. -/
def countFailure (g : Guard) : Action Unit := do
  match g.failures with
  | none => pure ()
  | some id =>
    let marks ← ["labels", "_lock", "_metrics", "_kwargs"].mapM (Item.series id).mark?
    match (← get).series[id]? with
    | none => pure ()
    | some s =>
      match s.increment g.identity.plain with
      | .ok s => if marks.all (·.isNone) then setSeries id s
      | .error _ => pure ()

def guarded (g : Guard) (t : Action Value) : Action Value := do
  match ← t.outcome with
  | .ok v => return v
  | .error e =>
    Action.report (guardEntry g e)
    countFailure g
    return g.fallback

def poll (query : Query) (guard : Option Guard) : Action Value :=
  match guard with
  | some g => guarded g (ask query)
  | none => ask query

/-- Counts a read where the count was replaced. -/
def countMarked (statistics : Item) (part : String) : Action Unit := do
  match ← statistics.markedValue? part with
  | some v =>
    let v ← Action.ofExcept ((v.add (.int 1)).mapError .number)
    statistics.mark part (← keepNew (.plain v))
  | none => return ()

/-- Puts a question to statistics, which count it before they look the answer up. -/
def question (statistics : Item) (q : StatQuery) : Action Nat := do
  match statistics with
  | .statistics id =>
    statistics.requireUnmarked q.partName
    countMarked statistics q.countName
    changeStatistics id q.count
    requireOwn statistics q.storeName "get"
    return id
  | item => askPart item q.partName

/-- What statistics keep under a key that is no statistic. -/
def readUnder (statistics : Item) (q : StatQuery) (key : Value) : Action (Option Value) := do
  let id ← question statistics q
  if !key.isKey then throw (.number .wrongKind)
  stray? (if q = .ticker then .tickers else .histograms) id key

/-- What is asked for in the place of an instrument's own statistic. -/
def otherStat? (h : Handle) (part : String) : Action (Option Value) :=
  (Item.instrument h).markedValue? part

def readTicker (h : Handle) (statistics : Item) (stat : TickerStat) : Action Int := do
  requireOwn (.instrument h) "stats" StatQuery.ticker.partName
  let v ← match ← otherStat? h "ticker_type" with
    | some key => do pure ((← readUnder statistics .ticker key).getD (.int 0))
    | none => do pure ((← getStatistics (← question statistics .ticker)).ticker stat)
  Action.ofExcept (v.toInt.mapError .number)

/-- Under a key that is no statistic there is no snapshot but an empty one. -/
def readSnapshot (h : Handle) (statistics : Item) (stat : HistogramStat) :
    Action (Option Snapshot) := do
  requireOwn (.instrument h) "stats" StatQuery.snapshot.partName
  match ← otherStat? h "histogram_type" with
  | some key =>
    match ← readUnder statistics .snapshot key with
    | none => return some Snapshot.zero
    | some .none => return none
    | some _ => throw .noPart
  | none => return (← getStatistics (← question statistics .snapshot)).snapshot stat

/-! ## Series inside of instruments -/

/-- A type that was put in the place of a series' own has to be one. -/
def requireType (series : Item) : Action Unit := do
  match ← series.markedValue? "_type" with
  | some (.str type) => if (SeriesType.ofText? type).isNone then throw (.seriesType type)
  | some _ => throw (.number .wrongKind)
  | none => return ()

/-- What is said of a series has to make sense when it is gone through. -/
def requireDescription (series : Item) : Action Unit := do
  if (← series.markedValue? "_unit").any fun v => v.isPresent && v.text?.isNone then
    throw (.number .wrongKind)
  match ← series.markedValue? "_name" with
  | some v =>
    if !v.isPresent then throw .emptyFamilyName
    if v.text?.isNone then throw .noPart
  | none => pure ()
  requireType series

/-- Whether the series inside of an instrument was given label names but no values. -/
def lacksLabels (h : Handle) : Action Bool := do
  let names ← (Item.inner h).markedValue? "_labelnames"
  let values ← (Item.inner h).markedValue? "_labelvalues"
  return names.any (·.isPresent) && !values.any (·.isPresent)

/-- Goes through the series inside of an instrument. -/
def requireSeries (h : Handle) : Action Unit := do
  (Item.inner h).requireAllUnmarked
    ["collect", "_get_metric", "_samples", "_is_parent", "_child_samples"]
  requireDescription (.inner h)
  if ← lacksLabels h then throw .noPart

/-- Asks the running total that a series keeps as a part. -/
def requireTotal (h : Handle) (part asked : String) : Action Unit := do
  requireOwn (.inner h) part asked
  (Item.total h).requireAllUnmarked [asked, "_lock"]

/-- The whole count of a counter. -/
def readCount (h : Handle) (total : Value) : Action Int := do
  requireOwn (.instrument h) "_counter" "collect"
  requireSeries h
  requireTotal h "_value" "get"
  Action.ofExcept (total.toInt.mapError .number)

/-- Why a value in the place of a list has not what is asked of its first member: it has no member,
or the member has not what is asked. -/
def memberFault (other : Fault) : Value → Fault
  | .mapping _ => .noEntry
  | v =>
    match v.members? with
    | some [] => .noMember
    | some _ => other
    | none => .number .wrongKind

/-- Takes the buckets of a histogram, which are there for its bounds. -/
def requireBuckets (h : Handle) : Action Unit := do
  if let some v ← (Item.inner h).markedValue? "_buckets" then throw (memberFault .noPart v)

/-- Goes through the bounds of a histogram. In their place only numbers can be compared. -/
def requireBounds (h : Handle) (contents : Histogram) : Action Unit := do
  if let some v ← (Item.inner h).markedValue? "_upper_bounds" then
    if (contents.withBounds? v).isNone then throw (memberFault (.number .wrongKind) v)

/-- The contents of a histogram, as far as they can be read. -/
def readContents (h : Handle) (contents : Histogram) : Action Histogram := do
  requireOwn (.instrument h) "_histogram" "collect"
  requireSeries h
  requireBounds h contents
  requireBuckets h
  if contents.hasSum then requireTotal h "_sum" "get"
  return contents

/-! ## Instruments -/

/-- The value of a gauge. -/
def pollGauge (h : Handle) : Action Value := do
  match ← getInstrument h with
  | .gauge query guard =>
    (Item.instrument h).requireAllUnmarked ["get_value", "_fn"]
    poll query guard
  | _ => throw .noPart

/-- What an instrument shows when it is read on its own. -/
inductive Glance where
  | value (v : Value)
  | histogram (contents : Histogram)
  | snapshot (s : Option Snapshot)
  | count (n : Int)

/-- Reads an instrument. -/
def glance (h : Handle) : Action Glance := do
  let item := Item.instrument h
  match ← getInstrument h with
  | .gauge .. => return .value (← pollGauge h)
  | .counter total =>
    item.requireUnmarked "get_count"
    return .count (← readCount h total)
  | .statsCounter statistics stat =>
    item.requireUnmarked "get_count"
    return .count (← readTicker h statistics stat)
  | .histogram contents =>
    item.requireAllUnmarked ["get_count", "get_sum", "buckets"]
    return .histogram (← readContents h contents)
  | .statsHistogram statistics stat =>
    item.requireUnmarked "get_snapshot"
    return .snapshot (← readSnapshot h statistics stat)

/-- What an instrument reports in a scrape. A histogram's count is not asked for. -/
def read (h : Handle) : Action Reading := do
  match ← getInstrument h with
  | .histogram contents =>
    (Item.instrument h).requireAllUnmarked ["buckets", "get_sum"]
    return .distribution (← readContents h contents)
  | _ =>
    match ← glance h with
    | .value v => return .gauge (← Action.ofExcept (v.toFloat.mapError .number))
    | .count n => return .count n
    | .histogram contents => return .distribution contents
    | .snapshot s => Action.ofExcept (Reading.ofSnapshot s)

end StorageMetrics.Host
