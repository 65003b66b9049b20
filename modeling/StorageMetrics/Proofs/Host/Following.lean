import StorageMetrics.Proofs.Host.Gauges
import StorageMetrics.Proofs.Host.Scraping

/-
  Gauges that follow their engine. While engines come to answer otherwise, gauges are polled and the
  registry is scraped, in any order (`Host.Polling`). Every poll of a gauge of a surface gives what
  the engine answers right then for the table and the level of the gauge, or zero where it does not
  answer; and each time that it does not, one more failure is counted under the name of the gauge,
  and none otherwise (`Host.gauges_follow_engine`).
-/

namespace StorageMetrics

open StorageMetrics.Action

namespace Host

/-! ## Answers of engines -/

section Engines

variable {h : Host} {engine : Nat} {state : Engine}
  (unmarked : ∀ name, h.mark? (.engine engine) name = none)

include unmarked

theorem engineForLevel_unmarked : engineForLevel (.engine engine) state h = .ok state h := by
  have failing : failingLevels (.engine engine) state h = .ok state.failingLevels h := by
    rw [failingLevels, bind_of_ok (Item.markedValue?_run (unmarked _))]
    rfl
  rw [engineForLevel]
  split
  · rfl
  · rw [bind_of_ok failing]
    rfl

/-- An engine that nobody meddled with answers by its state. -/
theorem askEngine_unmarked (found : h.engines[engine]? = some state) (query store : String)
    (f : Engine → Except EngineError Value) :
    (askEngine (.engine engine) query store f).answer h = (f state).mapError .engine := by
  have known : getEngine engine h = .ok state h := look_run found
  have answered : (do
      if !Engine.refuses (f state) then
        (Item.engine engine).requireUnmarked "_lock"
        requireOwn (.engine engine) store "get"
      Action.ofExcept ((f state).mapError .engine) : Action Value) h =
        Action.ofExcept ((f state).mapError .engine) h := by
    dsimp only
    split
    · rw [bind_of_ok (Item.requireUnmarked_run (unmarked _)),
        bind_of_ok (requireOwn_run _ (unmarked _))]
    · rfl
  have run : askEngine (.engine engine) query store f h =
      Action.ofExcept ((f state).mapError .engine) h := by
    rw [askEngine]
    dsimp only
    rw [bind_of_ok (Item.requireAllUnmarked_run fun name _ => unmarked name), bind_of_ok known]
    split
    · rw [bind_of_ok (engineForLevel_unmarked unmarked)]
      exact answered
    · exact answered
  rw [answer, run]
  cases f state <;> rfl

end Engines

/-! ## Runs -/

/-- Polls of single instruments and scrapes of the target, in any order, and the polls that come of
them. In between engines come to answer otherwise, and whatever else may change that polls do not go
through themselves. -/
inductive Polling (id target : Nat) (start : Host) : List Poll → Host → Prop where
  | start : Polling id target start [] start
  | change {polls : List Poll} {h h' : Host} (run : Polling id target start polls h)
      (setting : h'.setting = h.setting) (series : h'.series = h.series) :
      Polling id target start polls h'
  | poll {polls : List Poll} {h : Host} (run : Polling id target start polls h) (hd : Handle) :
      Polling id target start (polls ++ [⟨hd, h⟩]) ((pollGauge hd).after h)
  | scrape {polls : List Poll} {h : Host} (run : Polling id target start polls h) :
      Polling id target start (polls ++ scrapePolls id h) ((scrape target).after h)

variable {h g now : Host} {id target failures k : Nat} {r : Registry} {polls : List Poll}

theorem Polling.tallied (before : h.Undisturbed id target failures r)
    (run : Polling id target h polls now) : Tallied failures h polls now := by
  induction run with
  | start => exact .refl h
  | change _ setting series ih =>
    have more := ih.trans (.of_series_eq setting series)
    rwa [List.append_nil] at more
  | poll _ hd ih => exact ih.trans ((before.congr ih.setting_eq).poll_tallied hd)
  | scrape _ ih => exact ih.trans (before.congr ih.setting_eq).scrape_tallied

end Host

/-! ## Single polls -/

/-- The value of a gauge whose query was answered like that. -/
def Poll.valueOf (answer : Except Fault Value) : Value := answer.toOption.getD (.int 0)

/-- The poll of a gauge on this query gives the answer to it, or zero, and counts a failure under
the name alone, just where there is no answer. An engine that nobody meddled with answers by its
state. -/
structure Poll.Follows (p : Poll) (failures : Nat) (engine : Item) (name : MetricName)
    (query : Query) (told : Engine → Except EngineError Value) : Prop where
  answer_eq : ∀ e state, engine = .engine e → p.host.engines[e]? = some state →
    (∀ part, p.host.mark? engine part = none) →
      (Host.ask query).answer p.host = (told state).mapError .engine
  polled : (Host.pollGauge p.handle).answer p.host =
    .ok (valueOf ((Host.ask query).answer p.host))
  read : (Host.read p.handle).answer p.host =
    ((valueOf ((Host.ask query).answer p.host)).toFloat.mapError .number).map .gauge
  counted : ∀ label, ((Host.pollGauge p.handle).after p.host).failureCount failures label =
    if ((Host.ask query).answer p.host).toOption = none ∧ name.flat = label
    then p.host.failureCount failures label + 1 else p.host.failureCount failures label
  failsUnder_iff : ∀ label, p.failsUnder failures label = true ↔
    ((Host.ask query).answer p.host).toOption = none ∧ name.flat = label

namespace Host

variable {h g now : Host} {id target failures k : Nat} {r : Registry} {polls : List Poll}

/-- The query of a gauge is answered by the engine that the surface was built for. -/
theorem answer_of_hasGauge {surface : Surface} {request : SurfaceRequest} {name : MetricName}
    {query : Query} {told : Engine → Except EngineError Value} {hd : Handle}
    (gauge : surface.HasGauge request name query told hd) {e : Nat} {state : Engine}
    (engine : request.engine = .engine e) (found : h.engines[e]? = some state)
    (unmarked : ∀ part, h.mark? request.engine part = none) :
    (ask query).answer h = (told state).mapError .engine := by
  rw [engine] at unmarked
  cases gauge <;> rw [engine] <;> exact askEngine_unmarked unmarked found _ _ _

theorem follows_of_measures {surface : Surface} {request : SurfaceRequest} {name : MetricName}
    {query : Query} {told : Engine → Except EngineError Value} {p : Poll}
    (gauge : surface.HasGauge request name query told p.handle)
    (measures : Measures failures p.host r name query p.handle)
    (before : p.host.Undisturbed id target failures r) :
    p.Follows failures request.engine name query told := by
  obtain ⟨message, installed⟩ := measures.installed
  have fails (label : String) : p.failsUnder failures label = true ↔
      ((ask query).answer p.host).toOption = none ∧ name.flat = label := by
    rw [Poll.failsUnder, failsUnder, installed]
    dsimp only
    rw [Guard.countsUnder, decide_eq_true rfl, Bool.true_and, Bool.and_eq_true, decide_eq_true_eq,
      Option.isNone_iff_eq_none]
    exact And.comm
  refine ⟨fun e state engine found unmarked => answer_of_hasGauge gauge engine found unmarked,
    pollGauge_guarded before.intact installed, read_guarded before.intact installed,
    fun label => ?_, fails⟩
  rw [failureCount_pollGauge before.canCount]
  exact if_congr (fails label) rfl rfl

/-- A table surface whose names were all free, in a registry that has a target for itself, has a
gauge for each level of the settings and one for either size. However its engine comes to answer
otherwise, and in whatever order these gauges are polled and the target is scraped, each poll of one
of them gives what the engine answers right then to the query of this very gauge, or zero where it
fails to answer. The failures that are counted under any label at the end are those at the start and
one more for each poll that failed under it, and a gauge of the surface fails under its own name
alone. A scrape that comes to its end polls all of them. -/
theorem gauges_follow_engine {request : SurfaceRequest} {surface : Surface}
    (before : h.Undisturbed id target failures r) (registry : request.registry = .registry id)
    (built : buildSurface request h = .ok k g) (found : g.surfaces[k]? = some surface)
    (fresh : ∀ name ∈ surface.identities, name ∉ r.names) (run : Polling id target g polls now) :
    request.settings.bind levelCount = .ok surface.levels.length ∧
    (∀ p ∈ polls, ∀ name query told, surface.HasGauge request name query told p.handle →
      p.Follows failures request.engine name query told) ∧
    (∀ label, now.failureCount failures label =
      (· + 1)^[polls.countP (·.failsUnder failures label)] (g.failureCount failures label)) ∧
    ∀ families later, scrape target now = .ok families later → ∀ name query told hd,
      surface.HasGauge request name query told hd → ∃ p ∈ scrapePolls id now, p.handle = hd := by
  obtain ⟨levels, s, after, measures⟩ := gauges_of_buildSurface before registry built found fresh
  have tallied := run.tallied after
  refine ⟨levels, fun p mem name query told gauge => ?_, tallied.count_eq,
    fun families later scraped name query told hd gauge => ?_⟩
  · have setting := tallied.settings p mem
    obtain ⟨bound, message, installed⟩ := measures name query told p.handle gauge
    rw [← instruments_of_setting setting] at installed
    exact follows_of_measures gauge ⟨bound, message, installed⟩ (after.congr setting)
  · have polled := (after.congr tallied.setting_eq).handles_scrapePolls scraped
    have listed := OrderedMap.mem_of_get? (measures name query told hd gauge).bound
    have located : name.table?.isSome = true := by
      cases gauge <;> exact Option.isSome_of_eq_some (request.scope.table?_build _ _)
    have mem : hd ∈ (scrapePolls id now).map (·.handle) := by
      rw [polled]
      exact List.mem_map_of_mem (List.mem_filter.mpr ⟨listed, located⟩)
    exact List.mem_map.mp mem

/-! ## An engine that fails for a while -/

/-- The engine of the process came into this state. -/
def answering (h : Host) (state : Engine) : Host := { h with engines := #[state] }

/-- It has no handle of any table. -/
def unavailable : Engine := { failing := .bool true }

/-- It knows of five files of a table on level 3. -/
def compacted : Engine := { levelFiles := [(.int 3, [(.none, .int 5)])] }

theorem levelCount_compacted : compacted.levelCount .none 3 = .ok (.int 5) := by
  have level : (Value.int 3).same (.int 3) = true := by decide +kernel
  have table : Value.none.same .none = true := by decide +kernel
  simp [Engine.levelCount, compacted, Engine.levelAnswers, Engine.answer, Answers.find, level,
    table, Value.isKey, Value.isPresent]

theorem gauges_follow_engine_allTable :
    ∃ g surface hd, buildSurface allTable furnished = .ok 0 g ∧ g.surfaces[0]? = some surface ∧
      surface.levels.length = 7 ∧ surface.levels[3]? = some hd ∧
      ∃ failing failed now, failing = g.answering unavailable ∧
        failed = (pollGauge hd).after failing ∧
        now = (pollGauge hd).after (failed.answering compacted) ∧
        (pollGauge hd).answer failing = .ok (.int 0) ∧
        (pollGauge hd).answer (failed.answering compacted) = .ok (.int 5) ∧
        now.failureCount 0 (allTable.scope.name (Surface.levelLabel 3)).flat =
          g.failureCount 0 (allTable.scope.name (Surface.levelLabel 3)).flat + 1 := by
  have start := furnished_stands
  have registry : allTable.registry = .registry 0 := rfl
  have counted : allTable.settings.bind levelCount = .ok 7 := rfl
  obtain ⟨surface, g, t, ran, surfaces, builtFor, uses, -⟩ := build_first registry counted
  have found : g.surfaces[0]? = some surface := by rw [surfaces]; rfl
  have seven : surface.levels.length = 7 := builtFor.length_levels
  have here : surface.levels[3]? = some surface.levels[3] := List.getElem?_eq_getElem (by omega)
  generalize surface.levels[3] = hd at here
  let failing : Poll := ⟨hd, g.answering unavailable⟩
  let filled : Poll := ⟨hd, ((pollGauge hd).after failing.host).answering compacted⟩
  have fails : Polling 0 0 g [] failing.host := .change .start rfl rfl
  have recovers : Polling 0 0 g [failing] filled.host := .change (fails.poll hd) rfl rfl
  have run : Polling 0 0 g [failing, filled] ((pollGauge hd).after filled.host) := recovers.poll hd
  obtain ⟨-, follows, total, -⟩ := gauges_follow_engine start.undisturbed registry ran found
    (fun _ _ => List.not_mem_nil) run
  have unmarked : failing.host.marks = [] := uses.unmarked
  have unmarked' : filled.host.marks = [] := (pollGauge_quiet unmarked hd).marks_eq.trans unmarked
  have first := follows failing List.mem_cons_self _ _ _ (.level here)
  have second := follows filled (List.mem_cons_of_mem _ List.mem_cons_self) _ _ _ (.level here)
  have refused := first.answer_eq 0 unavailable rfl rfl (mark?_of_marks_nil unmarked _)
  have told := second.answer_eq 0 compacted rfl rfl (mark?_of_marks_nil unmarked' _)
  rw [show compacted.levelCount allTable.tableId 3 = .ok (.int 5) from levelCount_compacted] at told
  have fails : failing.failsUnder 0 (allTable.scope.name (Surface.levelLabel 3)).flat = true :=
    (first.failsUnder_iff _).mpr ⟨by rw [refused]; rfl, rfl⟩
  have succeeds :
      filled.failsUnder 0 (allTable.scope.name (Surface.levelLabel 3)).flat = false := by
    refine Bool.eq_false_iff.mpr fun fails => ?_
    have missing := ((second.failsUnder_iff _).mp fails).1
    rw [told] at missing
    cases missing
  refine ⟨g, surface, hd, ran, found, seven, here, _, _, _, rfl, rfl, rfl, ?_, ?_, ?_⟩
  · rw [first.polled, refused]
    rfl
  · rw [second.polled, told]
    rfl
  · rw [total, List.countP_cons_of_pos fails, List.countP_cons_of_neg (by rw [succeeds]; decide)]
    rfl

end Host

end StorageMetrics
