import StorageMetrics.Host.Scrape
import StorageMetrics.Proofs.Host.Parts

/-
  Reads leave alone what is not theirs. Statistics that are asked count it, be it in a mark of
  theirs, sources of rates drop what is too old, and guards count failures and report them; nothing
  else of the host changes, and nothing of it concerns the instruments that are read later on, apart
  from what they ask for themselves (`Host.readMember_leaves`).
-/

namespace StorageMetrics

open StorageMetrics.Action

/-- The host without what asking changes. Statistics may be marked by their own counting. -/
def Host.leftByAsking (h : Host) : Host :=
  { h with
    statistics := #[]
    trackers := #[]
    kept := #[]
    marks := h.marks.filter fun m => m.item.asStatistics.isNone }

/-- A series without its values. -/
def LabelledSeries.emptied (s : LabelledSeries) : LabelledSeries := { s with children := {} }

/-- The host without what reads change: guards count failures besides, and their reports are left
out. -/
def Host.leftByReads (h : Host) : Host :=
  { h.leftByAsking with
    series := h.series.map LabelledSeries.emptied
    journal := h.journal.filter fun e => e.reporter ≠ .guard }

/-- What a scrape goes by. -/
def Host.presented (h : Host) : Host :=
  { registries := h.registries
    instruments := h.instruments
    strays := h.strays
    marks := h.marks.filter fun m => m.item.asStatistics.isNone }

namespace Host

variable {h g : Host}

theorem series_of_asking (same : g.leftByAsking = h.leftByAsking) : g.series = h.series :=
  show g.leftByAsking.series = h.leftByAsking.series by rw [same]

theorem leftByReads_of_asking (same : g.leftByAsking = h.leftByAsking) :
    g.leftByReads = h.leftByReads :=
  congrArg (fun k : Host => ({ k with
    series := k.series.map LabelledSeries.emptied
    journal := k.journal.filter fun e => e.reporter ≠ .guard } : Host)) same

theorem presented_of_reads (same : g.leftByReads = h.leftByReads) : g.presented = h.presented :=
  congrArg (fun k : Host => ({ registries := k.registries, instruments := k.instruments
                               strays := k.strays, marks := k.marks } : Host)) same

end Host

namespace Action.Leaves

variable {t : Action α}

/-- What asking for parts leaves alone, asking sources does so too. -/
theorem leftByAsking (leaves : Leaves Host.besidesKept t) : Leaves Host.leftByAsking t :=
  leaves.coarsen fun h h' same =>
    show Host.leftByAsking h.besidesKept = Host.leftByAsking h'.besidesKept by rw [same]

/-- What asking leaves alone, reads do so too. -/
theorem leftByReads (leaves : Leaves Host.leftByAsking t) : Leaves Host.leftByReads t :=
  leaves.coarsen fun _ _ => Host.leftByReads_of_asking

/-- What reads leave alone, in the view of a scrape. -/
theorem presented (leaves : Leaves Host.leftByReads t) : Leaves Host.presented t :=
  leaves.coarsen fun _ _ => Host.presented_of_reads

end Action.Leaves

namespace Item

open Host

/-! ## Marks -/

theorem markedValue?_leaves (item : Item) (name : String) :
    Leaves leftByAsking (item.markedValue? name) := by
  refine .bind (mark?_leaves item name).leftByAsking fun marked => ?_
  split
  · exact (plain?_leaves _).leftByAsking
  · exact .pure _

theorem requireUnmarked_leaves (item : Item) (name : String) :
    Leaves leftByAsking (item.requireUnmarked name) :=
  .bind (mark?_leaves item name).leftByAsking fun _ => .ite (.throw _) (.pure _)

theorem requireAllUnmarked_leaves (item : Item) (names : List String) :
    Leaves leftByAsking (item.requireAllUnmarked names) :=
  .forM (fun _ => requireUnmarked_leaves _ _) _

theorem asStatistics_of_same {item : Item} {id : Nat} (same : item.same (.statistics id) = true) :
    item.asStatistics.isNone = false := by
  cases item <;> first | rfl | simp [Item.same] at same

/-- Statistics are the same as nothing but statistics. -/
theorem same_of_statistics {item other : Item} (counted : item.asStatistics.isNone = false)
    (another : other.asStatistics = none) : item.same other = false := by
  cases item with
  | statistics id => cases other <;> first | rfl | cases another
  | _ => cases counted

/-- Marking statistics does not show. -/
theorem mark_statistics_leaves (id : Nat) (name : String) (p : Item) :
    Leaves leftByAsking ((Item.statistics id).mark name p) := by
  refine .bind (.modify fun h => ?_) fun _ => .modify fun h => ?_
  · unfold leftByAsking
    dsimp only
    rw [List.filter_filter]
    congr 2
    funext m
    cases same : m.item.same (.statistics id) with
    | true => rw [asStatistics_of_same same, Bool.false_and]
    | false => simp
  · rfl

end Item

namespace Host

open Item

theorem askPart_leaves (item : Item) (part : String) :
    Leaves leftByAsking (askPart item part : Action α) :=
  .bind (require_leaves item part).leftByAsking fun _ => .throw _

theorem requireOwn_leaves (item : Item) (part asked : String) :
    Leaves leftByAsking (requireOwn item part asked) := by
  refine .bind (mark?_leaves item part).leftByAsking fun marked => ?_
  split
  · exact askPart_leaves _ _
  · exact .pure _

/-! ## Sources -/

theorem readCell_leaves (name : String) : Leaves leftByAsking (readCell name) := by
  refine .bind .get fun h => ?_
  split
  · exact .pure _
  · exact .throw _
  · exact .throw _

theorem rateOf_leaves (flow : Item) (d : Direction) : Leaves leftByAsking (rateOf flow d) := by
  unfold rateOf
  split
  · exact .bind (requireOwn_leaves _ _ _) fun _ => .bind (.look _) fun _ => .bind .get fun _ =>
      .bind (.modify fun _ => rfl) fun _ => .bind (.ofExcept _) fun _ => .pure _
  · exact readCell_leaves _
  · exact askPart_leaves _ _

theorem failingLevels_leaves (engine : Item) (e : Engine) :
    Leaves leftByAsking (failingLevels engine e) := by
  refine .bind (markedValue?_leaves _ _) fun marked => ?_
  split
  · exact .throw _
  · exact .ofExcept _
  · exact .pure _

theorem engineForLevel_leaves (engine : Item) (e : Engine) :
    Leaves leftByAsking (engineForLevel engine e) :=
  .ite (.pure _) (.bind (failingLevels_leaves _ _) fun _ => .pure _)

theorem askEngine_leaves (engine : Item) (query store : String)
    (f : Engine → Except EngineError Value) :
    Leaves leftByAsking (askEngine engine query store f) := by
  have answered (e : Engine) : Leaves leftByAsking (do
      let answer := f e
      if !Engine.refuses answer then
        engine.requireUnmarked "_lock"
        requireOwn engine store "get"
      Action.ofExcept (answer.mapError .engine)) :=
    .ite (.bind (requireUnmarked_leaves _ _) fun _ => .bind (requireOwn_leaves _ _ _) fun _ =>
      .ofExcept _) (.ofExcept _)
  unfold askEngine
  split
  · refine .bind (requireAllUnmarked_leaves _ _) fun _ => .bind (.look _) fun e => ?_
    exact .ite (.bind (engineForLevel_leaves _ _) answered) (answered _)
  · exact askPart_leaves _ _

theorem ask_leaves (query : Query) : Leaves leftByAsking (ask query) := by
  cases query with
  | cell name => exact readCell_leaves name
  | levelCount engine table level => exact askEngine_leaves _ _ _ _
  | pendingBytes engine table => exact askEngine_leaves _ _ _ _
  | liveBytes engine table => exact askEngine_leaves _ _ _ _
  | rate flow d => exact rateOf_leaves flow d
  | thing item => exact .throw _

/-- Counting changes nothing of a series but its values. -/
theorem emptied_of_increment {s s' : LabelledSeries} {label : String}
    (counted : s.increment label = .ok s') : s'.emptied = s.emptied := by
  rw [LabelledSeries.increment] at counted
  split at counted
  · cases counted
    rfl
  · cases counted

theorem setSeries_leaves {h : Host} {id : Nat} {s s' : LabelledSeries}
    (found : h.series[id]? = some s) (same : s'.emptied = s.emptied) :
    ((setSeries id s').after h).leftByReads = h.leftByReads := by
  have series : (h.series.setIfInBounds id s').map LabelledSeries.emptied =
      h.series.map LabelledSeries.emptied := by
    obtain ⟨inside, rfl⟩ := Array.getElem?_eq_some_iff.mp found
    refine Array.ext_getElem? fun i => ?_
    rw [Array.getElem?_map, Array.getElem?_map, Array.getElem?_setIfInBounds]
    by_cases here : id = i
    · subst here
      simp [inside, same]
    · rw [if_neg here]
  have whole (x : Array LabelledSeries) : ({ h with series := x } : Host).leftByReads =
      { h.leftByReads with series := x.map LabelledSeries.emptied } := rfl
  show ({ h with series := h.series.setIfInBounds id s' } : Host).leftByReads = _
  rw [whole, series]
  rfl

theorem countFailure_leaves (g : Guard) : Leaves leftByReads (countFailure g) := by
  unfold countFailure
  split
  · exact .pure _
  · refine .bind (.mapM (fun _ => (mark?_leaves _ _).leftByAsking.leftByReads) _) fun marks =>
      .here fun h => ?_
    split
    · rfl
    · rename_i s found
      split
      · rename_i s' counted
        split
        · exact setSeries_leaves found (emptied_of_increment counted)
        · rfl
      · rfl

/-- The reports of guards are left out. -/
theorem report_guardEntry_leaves (g : Guard) (e : Fault) :
    Leaves leftByReads (Action.report (guardEntry g e)) := by
  refine .modify fun h => ?_
  unfold leftByReads
  dsimp only
  rw [List.filter_append]
  congr 1
  exact List.append_nil _

theorem guarded_leaves (g : Guard) {t : Action Value} (leaves : Leaves leftByReads t) :
    Leaves leftByReads (guarded g t) := by
  refine .bind leaves.outcome fun result => ?_
  split
  · exact .pure _
  · exact .bind (report_guardEntry_leaves g _) fun _ => .bind (countFailure_leaves g) fun _ => .pure _

theorem poll_leaves (query : Query) (guard : Option Guard) : Leaves leftByReads (poll query guard) := by
  cases guard with
  | some g => exact guarded_leaves g (ask_leaves query).leftByReads
  | none => exact (ask_leaves query).leftByReads

/-! ## Statistics -/

theorem countMarked_leaves (id : Nat) (part : String) :
    Leaves leftByAsking (countMarked (.statistics id) part) := by
  refine .bind (markedValue?_leaves _ _) fun marked => ?_
  split
  · exact .bind (.ofExcept _) fun _ => .bind (keepNew_leaves _).leftByAsking fun _ =>
      mark_statistics_leaves _ _ _
  · exact .pure _

theorem question_leaves (statistics : Item) (q : StatQuery) :
    Leaves leftByAsking (question statistics q) := by
  unfold question
  split
  · exact .bind (requireUnmarked_leaves _ _) fun _ => .bind (countMarked_leaves _ _) fun _ =>
      .bind (.bind (.look _) fun _ => .modify fun _ => rfl) fun _ =>
        .bind (requireOwn_leaves _ _ _) fun _ => .pure _
  · exact askPart_leaves _ _

theorem stray?_leaves (kind : Store) (owner : Nat) (key : Value) :
    Leaves leftByAsking (stray? kind owner key) :=
  .bind (.bind (.bind .get fun _ => .pure _) fun _ => .pure _) fun _ => .pure _

theorem readUnder_leaves (statistics : Item) (q : StatQuery) (key : Value) :
    Leaves leftByAsking (readUnder statistics q key) :=
  .bind (question_leaves _ _) fun _ => .guard fun _ => stray?_leaves _ _ _

theorem readTicker_leaves (h : Handle) (statistics : Item) (stat : TickerStat) :
    Leaves leftByAsking (readTicker h statistics stat) := by
  refine .bind (requireOwn_leaves _ _ _) fun _ => .bind (markedValue?_leaves _ _) fun marked => ?_
  split
  · exact .bind (readUnder_leaves _ _ _) fun _ => .bind (.pure _) fun _ => .ofExcept _
  · exact .bind (question_leaves _ _) fun _ => .bind (.look _) fun _ => .bind (.pure _) fun _ =>
      .ofExcept _

theorem readSnapshot_leaves (h : Handle) (statistics : Item) (stat : HistogramStat) :
    Leaves leftByAsking (readSnapshot h statistics stat) := by
  refine .bind (requireOwn_leaves _ _ _) fun _ => .bind (markedValue?_leaves _ _) fun marked => ?_
  split
  · refine .bind (readUnder_leaves _ _ _) fun found => ?_
    split
    · exact .pure _
    · exact .pure _
    · exact .throw _
  · exact .bind (question_leaves _ _) fun _ => .bind (.look _) fun _ => .pure _

/-! ## Series inside of instruments -/

theorem requireType_leaves (series : Item) : Leaves leftByAsking (requireType series) := by
  refine .bind (markedValue?_leaves _ _) fun marked => ?_
  split
  · exact .ite (.throw _) (.pure _)
  · exact .throw _
  · exact .pure _

theorem requireDescription_leaves (series : Item) : Leaves leftByAsking (requireDescription series) := by
  refine .bind (markedValue?_leaves _ _) fun unit => .guard fun _ =>
    .bind (markedValue?_leaves _ _) fun marked => ?_
  split
  · exact .guard fun _ => .guard fun _ => requireType_leaves _
  · exact requireType_leaves _

theorem lacksLabels_leaves (h : Handle) : Leaves leftByAsking (lacksLabels h) :=
  .bind (markedValue?_leaves _ _) fun _ => .bind (markedValue?_leaves _ _) fun _ => .pure _

theorem requireSeries_leaves (h : Handle) : Leaves leftByAsking (requireSeries h) :=
  .bind (requireAllUnmarked_leaves _ _) fun _ => .bind (requireDescription_leaves _) fun _ =>
    .bind (lacksLabels_leaves h) fun _ => .ite (.throw _) (.pure _)

theorem requireTotal_leaves (h : Handle) (part asked : String) :
    Leaves leftByAsking (requireTotal h part asked) :=
  .bind (requireOwn_leaves _ _ _) fun _ => requireAllUnmarked_leaves _ _

theorem readCount_leaves (h : Handle) (total : Value) : Leaves leftByAsking (readCount h total) :=
  .bind (requireOwn_leaves _ _ _) fun _ => .bind (requireSeries_leaves h) fun _ =>
    .bind (requireTotal_leaves _ _ _) fun _ => .ofExcept _

theorem requireBuckets_leaves (h : Handle) : Leaves leftByAsking (requireBuckets h) := by
  refine .bind (markedValue?_leaves _ _) fun marked => ?_
  split
  · exact .throw _
  · exact .pure _

theorem requireBounds_leaves (h : Handle) (contents : Histogram) :
    Leaves leftByAsking (requireBounds h contents) := by
  refine .bind (markedValue?_leaves _ _) fun marked => ?_
  split
  · exact .ite (.throw _) (.pure _)
  · exact .pure _

theorem readContents_leaves (h : Handle) (contents : Histogram) :
    Leaves leftByAsking (readContents h contents) :=
  .bind (requireOwn_leaves _ _ _) fun _ => .bind (requireSeries_leaves h) fun _ =>
    .bind (requireBounds_leaves _ _) fun _ => .bind (requireBuckets_leaves h) fun _ =>
      .ite (.bind (requireTotal_leaves _ _ _) fun _ => .pure _) (.pure _)

/-! ## Instruments -/

theorem getInstrument_run {h : Host} {hd : Handle} {i : Instrument}
    (found : h.instruments[hd.id]? = some i) : getInstrument hd h = .ok i h := look_run found

theorem pollGauge_leaves (h : Handle) : Leaves leftByReads (pollGauge h) := by
  refine .bind (.look _) fun i => ?_
  split
  · exact .bind (requireAllUnmarked_leaves _ _).leftByReads fun _ => poll_leaves _ _
  · exact .throw _

/-- All instruments but gauges are shown by asking alone. -/
theorem glance_asks {g : Host} {h : Handle} {i : Instrument} (found : g.instruments[h.id]? = some i)
    (other : i.kind ≠ .gauge) : ((glance h).after g).leftByAsking = g.leftByAsking := by
  rw [glance, after_bind_of_ok (getInstrument_run found)]
  cases i with
  | gauge query guard => exact absurd rfl other
  | counter total =>
    exact Leaves.bind (requireUnmarked_leaves _ _) (fun _ => .bind (readCount_leaves _ _) fun _ =>
      .pure _) g
  | statsCounter statistics stat =>
    exact Leaves.bind (requireUnmarked_leaves _ _) (fun _ => .bind (readTicker_leaves _ _ _) fun _ =>
      .pure _) g
  | histogram contents =>
    exact Leaves.bind (requireAllUnmarked_leaves _ _) (fun _ => .bind (readContents_leaves _ _)
      fun _ => .pure _) g
  | statsHistogram statistics stat =>
    exact Leaves.bind (requireUnmarked_leaves _ _) (fun _ => .bind (readSnapshot_leaves _ _ _)
      fun _ => .pure _) g

theorem glance_leaves (h : Handle) : Leaves leftByReads (glance h) := by
  refine .bind (.look _) fun i => ?_
  split
  · exact .bind (pollGauge_leaves h) fun _ => .pure _
  · exact .bind (requireUnmarked_leaves _ _).leftByReads fun _ =>
      .bind (readCount_leaves _ _).leftByReads fun _ => .pure _
  · exact .bind (requireUnmarked_leaves _ _).leftByReads fun _ =>
      .bind (readTicker_leaves _ _ _).leftByReads fun _ => .pure _
  · exact .bind (requireAllUnmarked_leaves _ _).leftByReads fun _ =>
      .bind (readContents_leaves _ _).leftByReads fun _ => .pure _
  · exact .bind (requireUnmarked_leaves _ _).leftByReads fun _ =>
      .bind (readSnapshot_leaves _ _ _).leftByReads fun _ => .pure _

/-- The reading of what an instrument shows. -/
def Glance.report : Glance → Action Reading
  | value v => do return Reading.gauge (← Action.ofExcept (v.toFloat.mapError .number))
  | count n => return .count n
  | histogram contents => return .distribution contents
  | snapshot s => Action.ofExcept (Reading.ofSnapshot s)

theorem Glance.report_leaves (shown : Glance) : Leaves id shown.report := by
  cases shown with
  | value v => exact .bind (.ofExcept _) fun _ => .pure _
  | count n => exact .pure _
  | histogram contents => exact .pure _
  | snapshot s => exact .ofExcept _

/-- All but histograms are read as what they show. -/
theorem read_of_glance {h : Host} {hd : Handle} {i : Instrument}
    (here : h.instruments[hd.id]? = some i) (other : i.kind ≠ .histogram) :
    read hd h = (glance hd >>= Glance.report) h := by
  rw [read, bind_of_ok (getInstrument_run here)]
  cases i <;> first | rfl | exact absurd rfl other

theorem read_after {h : Host} {hd : Handle} {i : Instrument} (here : h.instruments[hd.id]? = some i)
    (other : i.kind ≠ .histogram) : (read hd).after h = (glance hd).after h := by
  rw [after, read_of_glance here other]
  exact after_bind_of_leaves Glance.report_leaves h

/-- All instruments but gauges are read by asking alone. -/
theorem read_asks {g : Host} {h : Handle} {i : Instrument} (found : g.instruments[h.id]? = some i)
    (other : i.kind ≠ .gauge) : ((read h).after g).leftByAsking = g.leftByAsking := by
  by_cases written : i.kind = .histogram
  · cases i with
    | histogram contents =>
      rw [read, after_bind_of_ok (getInstrument_run found)]
      exact Leaves.bind (requireAllUnmarked_leaves _ _) (fun _ => .bind (readContents_leaves _ _)
        fun _ => .pure _) g
    | _ => cases written
  · rw [read_after found written]
    exact glance_asks found other

theorem read_leaves (h : Handle) : Leaves leftByReads (read h) := by
  refine .bind (.look _) fun i => ?_
  split
  · exact .bind (requireAllUnmarked_leaves _ _).leftByReads fun _ =>
      .bind (readContents_leaves _ _).leftByReads fun _ => .pure _
  · refine .bind (glance_leaves h) fun shown => ?_
    split
    · exact .bind (.ofExcept _) fun _ => .pure _
    · exact .pure _
    · exact .pure _
    · exact .ofExcept _

/-- Reading a member of a registry changes nothing that is not for reads to change. -/
theorem readMember_leaves (id : Nat) (name : MetricName) (h : Handle) :
    Leaves leftByReads (readMember id name h) := by
  refine .bind (requireUnmarked_leaves _ _).leftByReads fun _ => ?_
  split
  · exact .throw _
  · exact .bind (read_leaves h) fun _ => .pure _

end Host

end StorageMetrics
