import StorageMetrics.Host.Reading

/-
  Writing: increments of counters, values of histograms, and transfers of throughput trackers.
-/

namespace StorageMetrics.Host

/-- An instrument with another running total. -/
def setTotal (h : Handle) (i : Instrument) : Action Unit := do
  vacate (.part (.total h) "_value")
  setInstrument h i

/-- A series inside of an instrument that has label names but no values takes nothing in. -/
def requireObservable (h : Handle) : Action Unit := do
  if ← lacksLabels h then
    let type := ((← (Item.inner h).markedValue? "_type").map (·.plain)).getD h.kind.series.text
    throw (.unlabelledCount type)

/-- Increments the series inside of a counter. -/
def addToCounter (h : Handle) (amount : Value) : Action Unit := do
  match ← getInstrument h with
  | .counter total =>
    (Item.inner h).requireUnmarked "inc"
    requireObservable h
    match ← Action.ofExcept ((Counter.increase total amount).mapError .number) with
    | none => throw .decrease
    | some total =>
      requireTotal h "_value" "inc"
      setTotal h (.counter total)
  | _ => throw .noPart

/-- Increments a counter, then tells its whole count. -/
def increase (h : Handle) (amount : Value) : Action Int := do
  let item := Item.instrument h
  item.requireUnmarked "inc"
  requireOwn item "_counter" "inc"
  addToCounter h amount
  item.requireUnmarked "get_count"
  match ← getInstrument h with
  | .counter total => readCount h total
  | _ => throw .noPart

/-- Adds to the running total inside of a counter or a histogram; it may fall. -/
def addToTotal (h : Handle) (amount : Value) : Action Unit := do
  (Item.total h).requireAllUnmarked ["inc", "_lock"]
  match ← getInstrument h with
  | .counter total =>
    setTotal h (.counter (← Action.ofExcept ((total.grow amount).mapError .number)))
  | .histogram contents =>
    let total ← Action.ofExcept ((contents.total.grow amount).mapError .number)
    setTotal h (.histogram { contents with total := total })
  | _ => throw .noPart

/-- Increments a counter that stands outside of any registry; one with labels counts nothing without
them. -/
def increaseSeries (id : Nat) (amount : Value) : Action Unit := do
  (Item.series id).requireUnmarked "inc"
  let s ← getSeries id
  if !s.labelNames.isEmpty then throw (.unlabelledCount "counter")
  let total := Value.float ((s.children.get? []).getD 0)
  match ← Action.ofExcept ((Counter.increase total amount).mapError .number) with
  | none => throw .decrease
  | some total =>
    let total ← Action.ofExcept (total.toFloat.mapError .number)
    setSeries id { s with children := s.children.insert [] total }

/-- Increments what counts. Of all that counts only a counter tells its count. -/
def increaseItem (item : Item) (amount : Value) : Action Int := do
  match item with
  | .instrument h => return (← increase h amount)
  | .series id => increaseSeries id amount
  | .inner h => addToCounter h amount
  | .total h => addToTotal h amount
  | item => askPart item "inc"
  throw .noPart

/-- Adds a value to a histogram, then reads it. -/
def update (h : Handle) (value : Value) : Action Histogram := do
  let item := Item.instrument h
  match ← getInstrument h with
  | .histogram contents =>
    item.requireUnmarked "update"
    requireOwn item "_histogram" "observe"
    (Item.inner h).requireUnmarked "observe"
    requireObservable h
    requireTotal h "_sum" "inc"
    let (outcome, updated) := contents.update value
    setTotal h (.histogram updated)
    Action.ofExcept (outcome.mapError .number)
    requireBounds h contents
    if updated.count ≠ contents.count then requireBuckets h
    item.requireAllUnmarked ["get_count", "get_sum"]
    readContents h updated
  | _ =>
    item.requireUnmarked "update"
    throw .noPart

/-! ## Engines -/

/-- Says whether an engine fails altogether. Anything else keeps the word as a mark. -/
def setFailing (item : Item) (v : Value) : Action Unit := do
  match item with
  | .engine id =>
    vacate (.part item "fail_all")
    changeEngine id fun e => .ok { e with failing := v }
  | item => item.markIfOpen "fail_all" (← keepNew (.plain v))

/-- Says which levels of an engine fail. Anything else keeps them as a mark. -/
def setFailingLevels (item : Item) (levels : Value) : Action Unit := do
  let levels ← Action.ofExcept (levels.members.mapError .number)
  if !levels.all Value.isKey then throw (.engine .noKey)
  match item with
  | .engine id =>
    vacate (.part item "failing_levels")
    item.unmark "failing_levels"
    changeEngine id (·.setFailingLevels levels)
  | item => item.markIfOpen "failing_levels" (← keepNew (.keys (Value.distinct levels)))

/-! ## Dictionaries and sets -/

/-- Key and value, out of what is to be put into a dictionary. -/
def pairOf (index : Nat) (v : Value) : Action (Value × Value) := do
  match ← Action.ofExcept (v.members.mapError .number) with
  | [key, x] => if key.isKey then return (key, x) else throw (.number .wrongKind)
  | xs => throw (.notAPair index xs.length)

/-- Gives a series another word for what is said of it, where the word tells. -/
def describe? (s : LabelledSeries) (part : String) (x : Value) : Option LabelledSeries :=
  match part, x with
  | "_name", .str name => if name = "" then none else some { s with name := name }
  | "_documentation", .str doc => some { s with doc := doc }
  | "_type", .str type => (SeriesType.ofText? type).map fun type => { s with type := type }
  | "_labelnames", .list labels =>
    if s.labelNames.isEmpty || labels.isEmpty then none
    else (labels.mapM Value.text?).map fun labels => { s with labelNames := labels }
  | _, _ => none

/-- Gives an item a part that is a value. In the place of a dictionary another one changes what the
item keeps. -/
def markWith (owner : Item) (part : String) (x : Value) : Action Unit := do
  match x, ← owner.dictionary? part with
  | .mapping entries, some (kind, id) =>
    owner.unmark part
    vacateEntries (.store kind id)
    refill kind id entries
  | x, _ => owner.mark part (← keepNew (.plain x))

/-- Gives an item the part of this name, whatever it is. An entry under a key that is no name is
counted, but it is no part. -/
def assign (owner : Item) (key x : Value) : Action Unit := do
  match owner, key with
  | .engine id, .str "fail_all" => setFailing (.engine id) x
  | .registry id, .str "namespace" =>
    vacate (.part owner "namespace")
    renameRegistry id x
  | .instrument h, .str "biased" =>
    vacate (.part owner "biased")
    setBiased h x
  | .total h, .str "_value" =>
    vacate (.part owner "_value")
    setTotalValue h x
  | .surface id, .str "_engine" =>
    let engine ← keepNew (.plain x)
    owner.mark "_engine" engine
    changeQueries id (·.via engine)
  | .inner h, .str "_upper_bounds" =>
    owner.mark "_upper_bounds" (← keepNew (.plain x))
    match ← getInstrument h with
    | .histogram contents =>
      if let some contents := contents.withBounds? x then setInstrument h (.histogram contents)
    | _ => return ()
  | .series id, .str part =>
    markWith owner part x
    if let some s := describe? (← getSeries id) part x then setSeries id s
  | .settings id, .str name =>
    let context ← getContext id
    match context.settings.withField? name x with
    | some settings =>
      vacate (.part owner name)
      setContext id { context with settings := settings }
    | none => owner.mark name (← keepNew (.plain x))
  | owner, .str part => markWith owner part x
  | owner, key => owner.mark ("[" ++ key.shown ++ "]") (← keepNew (.plain x))

/-- Puts a value under a key of a dictionary. -/
def putInto (item : Item) (key x : Value) : Action Unit := do
  vacateEntry item key
  match item with
  | .store kind owner => putEntry kind owner key x
  | .parts owner => assign owner key x
  | .kept id =>
    match (← getKept id).content with
    | .plain (.mapping entries) => changeKept id (.plain (.mapping (Answers.put key x entries)))
    | _ => return ()
  | _ => return ()

/-- Puts pairs into a dictionary, one after the other. -/
def putPairs (item : Item) : Nat → List Value → Action Unit
  | _, [] => return ()
  | index, v :: rest => do
    let (key, x) ← pairOf index v
    putInto item key x
    putPairs item (index + 1) rest

/-- Puts values into a dictionary: a mapping's own, or a list of pairs. -/
def putAll (item : Item) (v : Value) : Action Unit := do
  match v with
  | .mapping entries => entries.forM fun e => putInto item e.1 e.2
  | v => putPairs item 0 (← Action.ofExcept (v.members.mapError .number))

/-- Puts a value under a key of a dictionary, or at an index of a list. -/
def putAt (item : Item) (key x : Value) : Action Unit := do
  if !key.isKey then throw (.number .wrongKind)
  if ← item.isDictionary then putInto item key x
  else
    match item, ← item.plain?, key.number? with
    | .kept id, some (.list xs), some (.int n) =>
      let index := if n < 0 then n + xs.length else n
      if index < 0 || xs.length ≤ index then throw .noMember
      changeKept id (.plain (.list (xs.set index.toNat x)))
    | _, _, _ => throw (.number .wrongKind)

/-- Adds keys to a set that the host keeps, one after the other. -/
def addKeys (id : Nat) (xs : List Value) : List Value → Action Unit
  | [] => return ()
  | key :: rest => do
    if !key.isKey then throw (.number .wrongKind)
    let xs := Value.addTo xs key
    changeKept id (.keys xs)
    addKeys id xs rest

/-- Updates what can be updated. Only a histogram then tells its count and sum. -/
def updateItem (item : Item) (v : Value) : Action Histogram := do
  match item with
  | .instrument h => return (← update h v)
  | item =>
    if ← item.isDictionary then putAll item v
    else
      match item, ← item.content? with
      | .kept id, some (.keys xs) => addKeys id xs (← Action.ofExcept (v.members.mapError .number))
      | item, _ => askPart item "update"
  throw .noPart

/-! ## Answers of sources -/

/-- Sets the answer of an engine that is found under a table. -/
def setAnswer (engine : Item) (part : String) (table answer : Value) : Action Unit := do
  putAt (← engine.part part) table answer

/-- Sets the answer of an engine for a level of a table. -/
def setLevelAnswer (engine : Item) (table level answer : Value) : Action Unit := do
  match ← engine.part "sstables" with
  | .store .levelFiles id => changeEngine id (·.setLevelFiles table level answer)
  | item => putAt item (Value.tuple [table, level]) answer

/-- Sets the count of a ticker. -/
def setTicker (statistics : Item) (stat : TickerStat) (count : Value) : Action Unit := do
  match ← statistics.part StatQuery.ticker.storeName with
  | .store .tickers id => changeStatistics id (·.setTicker stat count)
  | item => putAt item (.str stat.symbol) count

/-- Sets the snapshot of a histogram. -/
def setSnapshot (statistics : Item) (stat : HistogramStat) (snapshot : Option Snapshot) :
    Action Unit := do
  match ← statistics.part StatQuery.snapshot.storeName with
  | .store .histograms id => changeStatistics id (·.setSnapshot stat snapshot)
  | item => putAt item (.str stat.symbol) .none

/-- A part that is a plain value. -/
def partValue (item : Item) (name : String) : Action Value := do
  Action.part (← (← item.part name).plain?)

/-- How often histograms and tickers were read. -/
def reads (statistics : Item) : Action (Value × Value) := do
  let histograms ← partValue statistics StatQuery.snapshot.countName
  return (histograms, ← partValue statistics StatQuery.ticker.countName)

/-! ## Throughput -/

/-- Notes a transfer with a tracker. What it refuses anyway does not come to its window. -/
def record (flow : Item) (d : Direction) (bytes : Value) : Action Unit := do
  flow.requireUnmarked d.recorderName
  match flow with
  | .tracker id =>
    let (outcome, t) := (← getTracker id).record (← get).clock d bytes
    if (← flow.mark? d.windowName).isSome then
      let _ ← Action.ofExcept ((Throughput.accept bytes).mapError .throughput)
      requireOwn flow d.windowName "add"
    setTracker id t
    Action.ofExcept (outcome.mapError .throughput)
  | item => askPart item d.recorderName

end StorageMetrics.Host
