import StorageMetrics.Proofs.OrderedMap
import StorageMetrics.Proofs.Host.Unmarked

/-
  Guarded gauges and the counters of their failures. A guarded gauge gives what its query answers,
  or its default where the query fails, and never fails itself (`Host.pollGauge_guarded`). A failure
  counts once, under the identity of the gauge alone; all other polls and reads leave the counts as
  they are (`Host.failureCount_pollGauge`, `Host.failureCount_read`).
-/

namespace StorageMetrics

open StorageMetrics.Action

/-- The gauge counts its failures on this counter, under this label. -/
def Guard.countsUnder (g : Guard) (counter : Nat) (label : String) : Bool :=
  g.failures = some counter && g.identity.plain = label

namespace Host

/-- How many failures a counter has under a label. -/
def failureCount (h : Host) (counter : Nat) (label : String) : Float :=
  ((h.series[counter]?).bind (·.children.get? [label])).getD 0

/-- The host when a counter has one more failure under a label. -/
def withFailure (h : Host) (counter : Nat) (label : String) : Host :=
  { h with series := h.series.modify counter fun s =>
      { s with children := s.children.insert [label] ((s.children.get? [label]).getD 0 + 1) } }

/-- The counter is there and has one label, and nobody meddled with anything that is counted. -/
structure CanCount (h : Host) (counter : Nat) : Prop where
  found : ∃ s, h.series[counter]? = some s ∧ s.labelNames.length = 1
  intact : h.Intact

variable {h : Host} {counter : Nat} {hd : Handle}

theorem failureCount_congr {g : Host} (same : g.series[counter]? = h.series[counter]?)
    (label : String) : g.failureCount counter label = h.failureCount counter label := by
  rw [failureCount, failureCount, same]

theorem failureCount_asked {g : Host} (same : g.leftByAsking = h.leftByAsking) (label : String) :
    g.failureCount counter label = h.failureCount counter label :=
  failureCount_congr (by rw [series_of_asking same]) label

theorem failureCount_withFailure (can : h.CanCount counter) (label other : String) :
    (h.withFailure counter label).failureCount counter other =
      if label = other then h.failureCount counter other + 1 else h.failureCount counter other := by
  obtain ⟨s, found, -⟩ := can.found
  unfold failureCount withFailure
  rw [Array.getElem?_modify, if_pos rfl, found]
  simp only [Option.map_some, Option.bind_some, OrderedMap.get?_insert]
  by_cases here : label = other
  · simp [here]
  · simp [here]

/-- Asking leaves the counter as it is. -/
theorem CanCount.asked (can : h.CanCount counter) {k : Host}
    (same : k.leftByAsking = h.leftByAsking) : k.CanCount counter where
  found := by
    rw [series_of_asking same]
    exact can.found
  intact := can.intact.congr (presented_of_reads (leftByReads_of_asking same))

/-! ## Counting -/

theorem countFailure_run (can : h.CanCount counter) {g : Guard}
    (counts : g.failures = some counter) :
    countFailure g h = .ok () (h.withFailure counter g.identity.plain) := by
  obtain ⟨s, found, one⟩ := can.found
  have unmarked (name : String) : h.mark? (.series counter) name = none := can.intact.mark? rfl name
  have own := Item.mapM_mark?_run unmarked ["labels", "_lock", "_metrics", "_kwargs"]
  have put (x : LabelledSeries) : setSeries counter x h =
    .ok () { h with series := h.series.setIfInBounds counter x } := rfl
  rw [countFailure, counts]
  dsimp only
  rw [bind_of_ok own, bind_of_ok (get_run h), found]
  dsimp only
  rw [LabelledSeries.increment, if_pos one]
  dsimp only
  refine (congrFun (if_pos rfl) h).trans ?_
  rw [put, withFailure]
  congr 2
  refine Array.ext_getElem? fun i => ?_
  rw [Array.getElem?_modify, Array.getElem?_setIfInBounds]
  obtain ⟨inside, rfl⟩ := Array.getElem?_eq_some_iff.mp found
  by_cases here : counter = i
  · subst here
    simp [inside]
  · simp [here]

/-- Counting never fails, be there a counter or not. -/
theorem countFailure_ok (intact : h.Intact) (g : Guard) : ∃ k, countFailure g h = .ok () k := by
  rw [countFailure]
  cases g.failures with
  | none => exact ⟨h, rfl⟩
  | some id =>
    have unmarked (name : String) : h.mark? (.series id) name = none := intact.mark? rfl name
    have own := Item.mapM_mark?_run unmarked ["labels", "_lock", "_metrics", "_kwargs"]
    dsimp only
    rw [bind_of_ok own, bind_of_ok (get_run h)]
    cases h.series[id]? with
    | none => exact ⟨h, rfl⟩
    | some s =>
      dsimp only
      cases s.increment g.identity.plain with
      | error e => exact ⟨h, rfl⟩
      | ok s' => exact ⟨_, rfl⟩

/-- What counts on another counter, or on none, leaves this one alone. -/
theorem countFailure_elsewhere {g : Guard} (other : g.failures ≠ some counter) :
    Leaves (fun h => h.series[counter]?) (countFailure g) := by
  unfold countFailure
  split
  · exact .pure _
  · rename_i id counts
    have apart : id ≠ counter := fun same => other (counts.trans (congrArg some same))
    have asks (name : String) :
        Leaves (fun h : Host => h.series[counter]?) ((Item.series id).mark? name) :=
      (Item.mark?_leaves _ name).coarsen fun _ _ same => by
        have series := congrArg Host.series same
        exact congrArg (·[counter]?) series
    refine .bind (.mapM asks _) fun marks => .bind .get fun h => ?_
    split
    · exact .pure _
    · split
      · refine .ite (.modify fun h => ?_) (.pure _)
        simp [apart]
      · exact .pure _

/-! ## Guarded evaluations -/

theorem guarded_of_ok {g : Guard} {t : Action Value} {v : Value} {k : Host} (ran : t h = .ok v k) :
    guarded g t h = .ok v k := by
  rw [guarded, bind_of_ok (outcome_of_ok ran)]
  rfl

/-- A failure is reported first, and then counted. -/
theorem guarded_of_error {g : Guard} {t : Action Value} {e : Fault} {k : Host}
    (ran : t h = .error e k) :
    guarded g t h = (do countFailure g; return g.fallback)
      { k with journal := k.journal ++ [guardEntry g e] } := by
  rw [guarded, bind_of_ok (outcome_of_error ran)]
  dsimp only
  rw [bind_of_ok (report_run k _)]

/-- Whatever comes of asking, the failures that it counts are its own. -/
theorem failureCount_guarded (can : h.CanCount counter) (g : Guard) {t : Action Value}
    (asks : Leaves leftByAsking t) (label : String) :
    ((guarded g t).after h).failureCount counter label =
      if g.countsUnder counter label && (t.answer h).toOption.isNone
      then h.failureCount counter label + 1 else h.failureCount counter label := by
  have left := asks h
  cases ran : t h with
  | ok v k =>
    rw [after_of_ok ran] at left
    rw [after_of_ok (guarded_of_ok ran), answer_of_ok ran, failureCount_asked left]
    simp [Except.toOption]
  | error e k =>
    rw [after_of_error ran] at left
    rw [answer_of_error ran, after, guarded_of_error ran]
    have before : ({ k with journal := k.journal ++ [guardEntry g e] } : Host).failureCount counter
        label = h.failureCount counter label :=
      (failureCount_congr rfl label).trans (failureCount_asked left label)
    by_cases counts : g.failures = some counter
    · have can : ({ k with journal := k.journal ++ [guardEntry g e] } : Host).CanCount counter :=
        ⟨(can.asked left).found, (can.asked left).intact⟩
      rw [bind_of_ok (countFailure_run can counts)]
      refine (failureCount_withFailure can _ label).trans ?_
      rw [before]
      simp [Guard.countsUnder, counts, Except.toOption]
    · have elsewhere : Leaves (fun h => h.series[counter]?)
          (do countFailure g; return g.fallback : Action Value) :=
        .bind (countFailure_elsewhere counts) fun _ => .pure _
      refine (failureCount_congr (elsewhere _) label).trans ?_
      rw [before]
      simp [Guard.countsUnder, counts]

/-! ## Polls and reads -/

/-- A gauge that nobody meddled with goes to its query. -/
theorem pollGauge_run (intact : h.Intact) {query : Query} {guard : Option Guard}
    (found : h.instruments[hd.id]? = some (.gauge query guard)) :
    pollGauge hd h = poll query guard h := by
  rw [pollGauge, bind_of_ok (getInstrument_run found)]
  dsimp only
  rw [bind_of_ok (Item.requireAllUnmarked_run fun name _ => intact.mark? rfl name)]

/-- A guarded gauge gives what its query answers, or else its default. -/
theorem pollGauge_guarded (intact : h.Intact) {query : Query} {g : Guard}
    (found : h.instruments[hd.id]? = some (.gauge query (some g))) :
    (pollGauge hd).answer h = .ok (((ask query).answer h).toOption.getD g.fallback) := by
  rw [answer, pollGauge_run intact found, poll]
  cases ran : ask query h with
  | ok v k =>
    rw [guarded_of_ok ran, answer_of_ok ran]
    rfl
  | error e k =>
    have left := ask_leaves query h
    rw [after_of_error ran] at left
    have asked : k.Intact := intact.congr (presented_of_reads (leftByReads_of_asking left))
    have reported : ({ k with journal := k.journal ++ [guardEntry g e] } : Host).Intact := asked
    obtain ⟨k', counted⟩ := countFailure_ok reported g
    rw [guarded_of_error ran, answer_of_error ran, bind_of_ok counted]
    rfl

/-- In a scrape there is the same value, where it is a number. -/
theorem read_guarded (intact : h.Intact) {query : Query} {g : Guard}
    (found : h.instruments[hd.id]? = some (.gauge query (some g))) :
    (read hd).answer h =
      ((((ask query).answer h).toOption.getD g.fallback).toFloat.mapError .number).map .gauge := by
  obtain ⟨k, polled⟩ := ok_of_answer (pollGauge_guarded intact found)
  have shown : glance hd h = .ok (.value (((ask query).answer h).toOption.getD g.fallback)) k := by
    rw [glance, bind_of_ok (getInstrument_run found)]
    dsimp only
    rw [bind_of_ok polled]
    rfl
  rw [answer, read_of_glance found InstrumentKind.noConfusion, bind_of_ok shown, Glance.report]
  cases (((ask query).answer h).toOption.getD g.fallback).toFloat <;> rfl

/-- An evaluation of the gauge counts as a failure under the label. -/
def failsUnder (counter : Nat) (label : String) (h : Host) (hd : Handle) : Bool :=
  match h.instruments[hd.id]? with
  | some (.gauge query (some g)) =>
    g.countsUnder counter label && ((ask query).answer h).toOption.isNone
  | _ => false

/-- A poll counts at most once, and only where the gauge fails. -/
theorem failureCount_pollGauge (can : h.CanCount counter) (hd : Handle) (label : String) :
    ((pollGauge hd).after h).failureCount counter label =
      if failsUnder counter label h hd then h.failureCount counter label + 1
      else h.failureCount counter label := by
  cases found : h.instruments[hd.id]? with
  | none =>
    rw [pollGauge, after_of_error (bind_of_error (getInstrument_unknown found) _), failsUnder,
      found]
    rfl
  | some i =>
    rw [failsUnder, found]
    cases i with
    | gauge query guard =>
      rw [after, pollGauge_run can.intact found]
      cases guard with
      | none => exact failureCount_asked (ask_leaves query h) label
      | some g => exact failureCount_guarded can g (ask_leaves query) label
    | _ =>
      rw [pollGauge, after_bind_of_ok (getInstrument_run found)]
      rfl

/-- Reading a gauge polls it; reading another instrument counts nothing. -/
theorem failureCount_read (can : h.CanCount counter) (hd : Handle) (label : String) :
    ((read hd).after h).failureCount counter label =
      if failsUnder counter label h hd then h.failureCount counter label + 1
      else h.failureCount counter label := by
  cases found : h.instruments[hd.id]? with
  | none =>
    rw [read, after_of_error (bind_of_error (getInstrument_unknown found) _), failsUnder, found]
    rfl
  | some i =>
    by_cases gauge : i.kind = .gauge
    · have polled : (read hd).after h = (pollGauge hd).after h := by
        rw [read_after found (by rw [gauge]; exact InstrumentKind.noConfusion), glance,
          after_bind_of_ok (getInstrument_run found)]
        cases i with
        | gauge query guard => exact after_bind_of_leaves (fun _ => .pure _) h
        | _ => cases gauge
      rw [polled]
      exact failureCount_pollGauge can hd label
    · rw [failureCount_asked (read_asks found gauge), failsUnder, found]
      cases i <;> first | rfl | exact absurd rfl gauge

end Host

end StorageMetrics
