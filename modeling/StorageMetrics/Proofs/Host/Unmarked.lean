import StorageMetrics.Proofs.Host.Exposure

/-
  Reads where nothing is marked. Every check that an item was not tampered with goes through and
  changes nothing. Counters and histograms are read as they stand, and the instrument of a catalog
  entry tells what its statistics report, which count the question (`Host.read_statistics`).
-/

namespace StorageMetrics

open StorageMetrics.Action

/-- Statistics have counted one more question. -/
def Host.asked (h : Host) (id : Nat) (q : StatQuery) : Host :=
  { h with statistics := h.statistics.modify id q.count }

namespace Host

theorem getInstrument_unknown {h : Host} {hd : Handle} (missing : h.instruments[hd.id]? = none) :
    getInstrument hd h = .error .unknown h := by
  rw [getInstrument, bind_of_ok (get_run h), missing]
  rfl

theorem requireDescription_run {h : Host} {series : Item}
    (own : ∀ name, h.mark? series name = none) : requireDescription series h = .ok () h := by
  have type : requireType series h = .ok () h := by
    rw [requireType, bind_of_ok (Item.markedValue?_run (own _))]
    rfl
  rw [requireDescription, bind_of_ok (Item.markedValue?_run (own _))]
  dsimp only [Option.any_none]
  rw [if_neg Bool.false_ne_true, bind_of_ok (Item.markedValue?_run (own _))]
  exact type

/-! ## Steps without marks -/

section Unmarked

variable {h : Host} (unmarked : h.marks = [])

include unmarked

theorem markedValue?_unmarked (item : Item) (name : String) :
    item.markedValue? name h = .ok none h :=
  Item.markedValue?_run (mark?_of_marks_nil unmarked item name)

theorem marks_unmarked (item : Item) (names : List String) :
    names.mapM item.mark? h = .ok (names.map fun _ => none) h :=
  Item.mapM_mark?_run (mark?_of_marks_nil unmarked item) names

theorem requireUnmarked_unmarked (item : Item) (name : String) :
    item.requireUnmarked name h = .ok () h :=
  Item.requireUnmarked_run (mark?_of_marks_nil unmarked item name)

theorem requireAllUnmarked_unmarked (item : Item) (names : List String) :
    item.requireAllUnmarked names h = .ok () h :=
  Item.requireAllUnmarked_run fun name _ => mark?_of_marks_nil unmarked item name

theorem requireOwn_unmarked (item : Item) (part asked : String) :
    requireOwn item part asked h = .ok () h :=
  requireOwn_run asked (mark?_of_marks_nil unmarked item part)

theorem requireDescription_unmarked (series : Item) : requireDescription series h = .ok () h :=
  requireDescription_run (mark?_of_marks_nil unmarked series)

theorem lacksLabels_unmarked (hd : Handle) : lacksLabels hd h = .ok false h := by
  rw [lacksLabels, bind_of_ok (markedValue?_unmarked unmarked _ _),
    bind_of_ok (markedValue?_unmarked unmarked _ _)]
  rfl

theorem requireSeries_unmarked (hd : Handle) : requireSeries hd h = .ok () h := by
  rw [requireSeries, bind_of_ok (requireAllUnmarked_unmarked unmarked _ _),
    bind_of_ok (requireDescription_unmarked unmarked _),
    bind_of_ok (lacksLabels_unmarked unmarked hd)]
  rfl

theorem requireTotal_unmarked (hd : Handle) (part asked : String) :
    requireTotal hd part asked h = .ok () h := by
  rw [requireTotal, bind_of_ok (requireOwn_unmarked unmarked _ _ _)]
  exact requireAllUnmarked_unmarked unmarked _ _

theorem requireBounds_unmarked (hd : Handle) (contents : Histogram) :
    requireBounds hd contents h = .ok () h := by
  rw [requireBounds, bind_of_ok (markedValue?_unmarked unmarked _ _)]
  rfl

theorem requireBuckets_unmarked (hd : Handle) : requireBuckets hd h = .ok () h := by
  rw [requireBuckets, bind_of_ok (markedValue?_unmarked unmarked _ _)]
  rfl

/-- Counters are read as they stand. -/
theorem readCount_unmarked (hd : Handle) (total : Value) :
    readCount hd total h = Action.ofExcept (total.toInt.mapError .number) h := by
  rw [readCount, bind_of_ok (requireOwn_unmarked unmarked _ _ _),
    bind_of_ok (requireSeries_unmarked unmarked hd),
    bind_of_ok (requireTotal_unmarked unmarked hd _ _)]

/-- Histograms are read as they stand. -/
theorem readContents_unmarked (hd : Handle) (contents : Histogram) :
    readContents hd contents h = .ok contents h := by
  rw [readContents, bind_of_ok (requireOwn_unmarked unmarked _ _ _),
    bind_of_ok (requireSeries_unmarked unmarked hd),
    bind_of_ok (requireBounds_unmarked unmarked hd contents),
    bind_of_ok (requireBuckets_unmarked unmarked hd)]
  exact ite_bind_run (requireTotal_unmarked unmarked hd _ _) _

/-! ## Statistics -/

/-- Statistics that are there count every question. -/
theorem question_unmarked {id : Nat} {s : Statistics} (found : h.statistics[id]? = some s)
    (q : StatQuery) : question (.statistics id) q h = .ok id (h.asked id q) := by
  have counted : changeStatistics id q.count h = .ok () (h.asked id q) := by
    have known : getStatistics id h = .ok s h := look_run found
    have same : h.statistics.setIfInBounds id (q.count s) = h.statistics.modify id q.count := by
      refine Array.ext_getElem? fun i => ?_
      rw [Array.getElem?_modify, Array.getElem?_setIfInBounds]
      split
      case isTrue here =>
        subst here
        rw [found, if_pos (Array.getElem?_eq_some_iff.mp found).1]
        rfl
      case isFalse => rfl
    rw [changeStatistics, bind_of_ok known, asked, ← same]
    rfl
  have plain : countMarked (.statistics id) q.countName h = .ok () h := by
    rw [countMarked, bind_of_ok (markedValue?_unmarked unmarked _ _)]
    rfl
  rw [question, bind_of_ok (requireUnmarked_unmarked unmarked _ _), bind_of_ok plain,
    bind_of_ok counted, bind_of_ok (requireOwn_unmarked (h := h.asked id q) unmarked _ _ _)]
  rfl

theorem question_unknown {id : Nat} (missing : h.statistics[id]? = none) (q : StatQuery) :
    question (.statistics id) q h = .error .unknown h := by
  have plain : countMarked (.statistics id) q.countName h = .ok () h := by
    rw [countMarked, bind_of_ok (markedValue?_unmarked unmarked _ _)]
    rfl
  have unknown : getStatistics id h = .error .unknown h := by
    rw [getStatistics, bind_of_ok (get_run h), missing]
    rfl
  rw [question, bind_of_ok (requireUnmarked_unmarked unmarked _ _), bind_of_ok plain]
  refine bind_of_error ?_ _
  rw [changeStatistics, bind_of_error unknown]

end Unmarked

end Host

/-- The question by which a statistic is asked for. -/
def StatSource.query : StatSource → StatQuery
  | histogram _ => .snapshot
  | ticker _ => .ticker

/-- What statistics report of one of them in a scrape. -/
def Statistics.tell (s : Statistics) : StatSource → Except Fault Reading
  | .histogram stat => Reading.ofSnapshot (s.snapshot stat)
  | .ticker stat => ((s.ticker stat).toInt.mapError .number).map .count

/-- Two actions that run alike from here on can stand for each other. -/
theorem Action.bind_of_eq {t s : Action α} {h : Host} (same : t h = s h) (f : α → Action β) :
    (t >>= f) h = (s >>= f) h := by
  simp only [bind, EStateM.bind, same]

namespace Host

/-! ## Instruments -/

theorem kind_ofSource_ne (item : Item) (source : StatSource) :
    (Instrument.ofSource item source).kind ≠ .histogram := by
  cases source <;> exact InstrumentKind.noConfusion

section Unmarked

variable {h : Host} (unmarked : h.marks = [])

include unmarked

/-- What is asked of the statistics behind an instrument, by what it is shown as. -/
theorem glance_ofSource {hd : Handle} {item : Item} {source : StatSource}
    (here : h.instruments[hd.id]? = some (Instrument.ofSource item source)) :
    glance hd h = (match source with
      | .histogram stat => do
        let id ← question item .snapshot
        return Glance.snapshot ((← getStatistics id).snapshot stat)
      | .ticker stat => do
        let id ← question item .ticker
        let v := (← getStatistics id).ticker stat
        return Glance.count (← Action.ofExcept (v.toInt.mapError .number)) : Action Glance) h := by
  rw [glance, bind_of_ok (getInstrument_run here)]
  cases source with
  | histogram stat =>
    have told : readSnapshot hd item stat h =
        (do return (← getStatistics (← question item .snapshot)).snapshot stat) h := by
      rw [readSnapshot, bind_of_ok (requireOwn_unmarked unmarked _ _ _), otherStat?,
        bind_of_ok (markedValue?_unmarked unmarked _ _)]
    dsimp only [Instrument.ofSource]
    rw [bind_of_ok (requireUnmarked_unmarked unmarked _ _), bind_of_eq told]
    simp only [bind_assoc, pure_bind]
  | ticker stat =>
    have told : readTicker hd item stat h = (do
        let v := (← getStatistics (← question item .ticker)).ticker stat
        Action.ofExcept (v.toInt.mapError .number)) h := by
      rw [readTicker, bind_of_ok (requireOwn_unmarked unmarked _ _ _), otherStat?,
        bind_of_ok (markedValue?_unmarked unmarked _ _)]
      dsimp only
      simp only [pure_bind]
    dsimp only [Instrument.ofSource]
    rw [bind_of_ok (requireUnmarked_unmarked unmarked _ _), bind_of_eq told]
    simp only [bind_assoc]

/-- The instrument of a catalog entry tells what its statistics report. -/
theorem read_statistics {hd : Handle} {id : Nat} {source : StatSource} {s : Statistics}
    (here : h.instruments[hd.id]? = some (Instrument.ofSource (.statistics id) source))
    (found : h.statistics[id]? = some s) :
    read hd h = Action.ofExcept (s.tell source) (h.asked id source.query) := by
  have stillThere (q : StatQuery) :
      getStatistics id (h.asked id q) = .ok (q.count s) (h.asked id q) :=
    look_run (by simp [asked, Array.getElem?_modify, found])
  rw [read_of_glance here (kind_ofSource_ne _ _),
    bind_of_eq (glance_ofSource unmarked here)]
  cases source with
  | histogram stat =>
    dsimp only
    rw [bind_assoc, bind_of_ok (question_unmarked unmarked found _), bind_assoc,
      bind_of_ok (stillThere _)]
    rfl
  | ticker stat =>
    dsimp only
    rw [bind_assoc, bind_of_ok (question_unmarked unmarked found _), bind_assoc,
      bind_of_ok (stillThere _)]
    dsimp only [Statistics.tell, StatSource.query]
    rw [show (StatQuery.ticker.count s).ticker stat = s.ticker stat from rfl]
    cases (s.ticker stat).toInt <;> rfl

/-- Statistics that are not there tell nothing. -/
theorem read_statistics_unknown {hd : Handle} {id : Nat} {source : StatSource}
    (here : h.instruments[hd.id]? = some (Instrument.ofSource (.statistics id) source))
    (missing : h.statistics[id]? = none) : read hd h = .error .unknown h := by
  rw [read_of_glance here (kind_ofSource_ne _ _),
    bind_of_eq (glance_ofSource unmarked here)]
  cases source with
  | histogram stat =>
    dsimp only
    rw [bind_assoc, bind_of_error (question_unknown unmarked missing _)]
  | ticker stat =>
    dsimp only
    rw [bind_assoc, bind_of_error (question_unknown unmarked missing _)]

theorem read_counter {hd : Handle} {total : Value}
    (here : h.instruments[hd.id]? = some (.counter total)) :
    read hd h = Action.ofExcept ((total.toInt.mapError .number).map Reading.count) h := by
  have shown : glance hd h =
      (do return Glance.count (← Action.ofExcept (total.toInt.mapError .number))) h := by
    rw [glance, bind_of_ok (getInstrument_run here)]
    dsimp only
    rw [bind_of_ok (requireUnmarked_unmarked unmarked _ _),
      bind_of_eq (readCount_unmarked unmarked hd total)]
  rw [read_of_glance here (by exact InstrumentKind.noConfusion), bind_of_eq shown]
  cases total.toInt <;> rfl

theorem read_histogram {hd : Handle} {contents : Histogram}
    (here : h.instruments[hd.id]? = some (.histogram contents)) :
    read hd h = .ok (.distribution contents) h := by
  rw [read, bind_of_ok (getInstrument_run here)]
  dsimp only
  rw [bind_of_ok (requireAllUnmarked_unmarked unmarked _ _),
    bind_of_ok (readContents_unmarked unmarked hd contents)]
  rfl

end Unmarked

end Host

end StorageMetrics
