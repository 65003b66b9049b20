import StorageMetrics.Proofs.Host.Unmarked

/-
  Reads of two hosts. Where nothing is marked, what a read gives and what it changes depends on the
  sources and on the instrument alone. So from hosts that agree on these it ends alike: with one
  value, or in both with a failure (`read_alike`). Statistics are the exception that matters, since
  an instrument asks just one of them: hosts that differ in some statistics are told apart by the
  instruments of these and by no others.
-/

namespace StorageMetrics

open StorageMetrics.Action

/-! ## Ending alike -/

/-- Both came to their end with one answer, or both failed, and the hosts are related then. Why they
failed does not count. -/
def EndAlike (R : Host → Host → Prop) :
    EStateM.Result Fault Host α → EStateM.Result Fault Host α → Prop
  | .ok a h, .ok b g => a = b ∧ R h g
  | .error _ h, .error _ g => R h g
  | _, _ => False

/-- From related hosts the action ends alike. -/
def Respects (R : Host → Host → Prop) (t : Action α) : Prop :=
  ∀ h g, R h g → EndAlike R (t h) (t g)

namespace EndAlike

variable {R : Host → Host → Prop} {t s : Action α} {h g : Host}

theorem bind {f e : α → Action β} (first : EndAlike R (t h) (s g))
    (rest : ∀ a h g, R h g → EndAlike R (f a h) (e a g)) :
    EndAlike R ((t >>= f) h) ((s >>= e) g) := by
  cases ran : t h with
  | ok a h' =>
    cases ran' : s g with
    | ok b g' =>
      rw [ran, ran'] at first
      obtain ⟨rfl, related⟩ := first
      rw [bind_of_ok ran, bind_of_ok ran']
      exact rest a h' g' related
    | error e g' =>
      rw [ran, ran'] at first
      exact first.elim
  | error e h' =>
    cases ran' : s g with
    | ok b g' =>
      rw [ran, ran'] at first
      exact first.elim
    | error e' g' =>
      rw [ran, ran'] at first
      rw [bind_of_error ran, bind_of_error ran']
      exact first

theorem after (alike : EndAlike R (t h) (s g)) : R (t.after h) (s.after g) := by
  unfold Action.after
  cases ran : t h <;> cases ran' : s g <;> rw [ran, ran'] at alike
  · exact alike.2
  · exact alike.elim
  · exact alike.elim
  · exact alike

theorem ofExcept (related : R h g) (x : Except Fault α) :
    EndAlike R (Action.ofExcept x h) (Action.ofExcept x g) := by
  cases x with
  | ok a => exact ⟨rfl, related⟩
  | error e => exact related

end EndAlike

namespace Respects

variable {R : Host → Host → Prop} {t : Action α}

theorem pure (a : α) : Respects R (Pure.pure a : Action α) := fun _ _ related => ⟨rfl, related⟩

theorem throw (e : Fault) : Respects R (MonadExcept.throw e : Action α) := fun _ _ related => related

theorem ofExcept (x : Except Fault α) : Respects R (Action.ofExcept x) :=
  fun _ _ related => .ofExcept related x

theorem bind {f : α → Action β} (first : Respects R t) (rest : ∀ a, Respects R (f a)) :
    Respects R (t >>= f) := fun h g related => (first h g related).bind rest

/-- What goes on from the host itself has to end alike from related ones. -/
theorem get {f : Host → Action β} (rest : ∀ h g, R h g → EndAlike R (f h h) (f g g)) :
    Respects R (MonadState.get >>= f) := by
  intro h g related
  rw [bind_of_ok (get_run h), bind_of_ok (get_run g)]
  exact rest h g related

theorem look {find : Host → Option α} (same : ∀ h g, R h g → find g = find h) :
    Respects R (do Action.known (find (← MonadState.get)) : Action α) := by
  refine .get fun h g related => ?_
  rw [same h g related]
  cases find h with
  | some a => exact ⟨rfl, related⟩
  | none => exact related

theorem report (shown : Host.Glance) : Respects R shown.report := by
  cases shown with
  | value v => exact .bind (.ofExcept _) fun _ => .pure _
  | count n => exact .pure _
  | histogram contents => exact .pure _
  | snapshot s => exact .ofExcept _

end Respects

/-! ## What reads go by -/

/-- What instruments are and what gauges ask, without the statistics. -/
def Host.sources (h : Host) : Host :=
  { clock := h.clock
    cells := h.cells
    engines := h.engines
    trackers := h.trackers
    instruments := h.instruments
    series := h.series
    marks := h.marks }

/-- A relation of hosts without marks that have the same sources and stay related whatever reads
change. -/
structure Blurs (R : Host → Host → Prop) : Prop where
  unmarked : ∀ {h g}, R h g → h.marks = []
  sources_eq : ∀ {h g}, R h g → g.sources = h.sources
  size_eq : ∀ {h g}, R h g → g.statistics.size = h.statistics.size
  notes : ∀ {h g} (j j' : Journal) (k k' : Array Kept), R h g →
    R { h with journal := j, kept := k } { g with journal := j', kept := k' }
  trackers : ∀ {h g} (t : Array Throughput), R h g →
    R { h with trackers := t } { g with trackers := t }
  failures : ∀ {h g} {id : Nat} {s s' : LabelledSeries} {gauge : String}, R h g →
    h.series[id]? = some s → s.increment gauge = .ok s' →
    R { h with series := h.series.setIfInBounds id s' } { g with series := g.series.setIfInBounds id s' }
  asked : ∀ {h g} (id : Nat) (q : StatQuery), R h g → R (h.asked id q) (g.asked id q)

namespace Blurs

variable {R : Host → Host → Prop} (blurs : Blurs R) {h g : Host}

include blurs

theorem unmarked' (related : R h g) : g.marks = [] := by
  rw [show g.marks = h.marks from congrArg (·.marks) (blurs.sources_eq related),
    blurs.unmarked related]

theorem instruments_eq (related : R h g) : g.instruments = h.instruments :=
  congrArg (·.instruments) (blurs.sources_eq related)

/-- What goes through wherever nothing is marked, and changes nothing, is passed over. -/
theorem skip {check : Action α} {a : α} (ran : ∀ h : Host, h.marks = [] → check h = .ok a h)
    {f : α → Action β} (rest : Respects R (f a)) : Respects R (check >>= f) := by
  intro h g related
  rw [bind_of_ok (ran h (blurs.unmarked related)), bind_of_ok (ran g (blurs.unmarked' related))]
  exact rest h g related

end Blurs

namespace Host

theorem eq_of_besidesKept {h g : Host} (same : g.besidesKept = h.besidesKept) :
    g = { h with kept := g.kept } :=
  congrArg (fun rest : Host => { rest with kept := g.kept }) same

/-- What is asked for a part that cannot answer fails, and changes nothing but what is kept. -/
theorem askPart_run (item : Item) (part : String) (h : Host) :
    ∃ e k, (askPart item part : Action α) h = .error e { h with kept := k } := by
  have leaves := Item.require_leaves item part h
  unfold after at leaves
  cases ran : item.require part h with
  | ok u g =>
    rw [ran] at leaves
    refine ⟨.number .wrongKind, g.kept, ?_⟩
    rw [askPart, bind_of_ok ran, ← eq_of_besidesKept leaves]
    rfl
  | error e g =>
    rw [ran] at leaves
    refine ⟨e, g.kept, ?_⟩
    rw [askPart, bind_of_error ran, ← eq_of_besidesKept leaves]

end Host

namespace Blurs

open Host

variable {R : Host → Host → Prop} (blurs : Blurs R) {h g : Host}

include blurs

theorem askPart (item : Item) (part : String) : Respects R (askPart item part : Action α) := by
  intro h g related
  obtain ⟨e, k, ran⟩ := askPart_run (α := α) item part h
  obtain ⟨e', k', ran'⟩ := askPart_run (α := α) item part g
  rw [ran, ran']
  exact blurs.notes h.journal g.journal k k' related

/-! ## Sources -/

theorem readCell (name : String) : Respects R (readCell name) := by
  refine .get fun h g related => ?_
  have same : g.cells = h.cells := congrArg (·.cells) (blurs.sources_eq related)
  rw [same]
  cases h.cells.get? name with
  | none => exact related
  | some contents =>
    cases contents with
    | ok v => exact ⟨rfl, related⟩
    | error message => exact related

theorem setTracker (id : Nat) (t : Throughput) : Respects R (setTracker id t) := by
  intro h g related
  have same : g.trackers = h.trackers := congrArg (·.trackers) (blurs.sources_eq related)
  refine ⟨rfl, ?_⟩
  show R { h with trackers := _ } { g with trackers := g.trackers.setIfInBounds id t }
  rw [same]
  exact blurs.trackers _ related

theorem rateOf (flow : Item) (d : Direction) : Respects R (rateOf flow d) := by
  unfold Host.rateOf
  split
  case h_1 id =>
    refine blurs.skip (fun h unmarked => requireOwn_unmarked unmarked _ _ _) ?_
    refine .bind (.look fun h g related =>
      congrArg (·.trackers[id]?) (blurs.sources_eq related)) fun t => ?_
    refine .get fun h g related => ?_
    have clock : g.clock = h.clock := congrArg (·.clock) (blurs.sources_eq related)
    rw [clock]
    exact Respects.bind (blurs.setTracker id _)
      (fun _ => .bind (.ofExcept _) fun _ => .pure _) h g related
  case h_2 => exact blurs.readCell _
  case h_3 => exact blurs.askPart _ _

theorem askEngine (engine : Item) (query store : String) (f : Engine → Except EngineError Value) :
    Respects R (askEngine engine query store f) := by
  unfold Host.askEngine
  split
  case h_1 id =>
    have itself (e : Engine) (h : Host) (unmarked : h.marks = []) :
        engineForLevel (.engine id) e h = .ok e h := by
      have levels : failingLevels (.engine id) e h = .ok e.failingLevels h := by
        rw [failingLevels, bind_of_ok (markedValue?_unmarked unmarked _ _)]
        rfl
      unfold engineForLevel
      split
      · rfl
      · rw [bind_of_ok levels]
        rfl
    have answered (e : Engine) : Respects R (do
        let answer := f e
        if !Engine.refuses answer then
          (Item.engine id).requireUnmarked "_lock"
          requireOwn (.engine id) store "get"
        Action.ofExcept (answer.mapError .engine)) := by
      dsimp only
      split
      · exact blurs.skip (fun h unmarked => requireUnmarked_unmarked unmarked _ _)
          (blurs.skip (fun h unmarked => requireOwn_unmarked unmarked _ _ _) (.ofExcept _))
      · exact .ofExcept _
    refine blurs.skip (fun h unmarked => requireAllUnmarked_unmarked unmarked _ _) ?_
    refine .bind (.look fun h g related =>
      congrArg (·.engines[id]?) (blurs.sources_eq related)) fun e => ?_
    split
    · exact blurs.skip (itself e) (answered e)
    · exact blurs.skip (fun h _ => rfl) (answered e)
  case h_2 => exact blurs.askPart _ _

theorem ask (query : Query) : Respects R (ask query) := by
  cases query with
  | cell name => exact blurs.readCell name
  | levelCount engine table level => exact blurs.askEngine _ _ _ _
  | pendingBytes engine table => exact blurs.askEngine _ _ _ _
  | liveBytes engine table => exact blurs.askEngine _ _ _ _
  | rate flow d => exact blurs.rateOf flow d
  | thing item => exact .throw _

/-! ## Gauges -/

theorem countFailure (guard : Guard) : Respects R (countFailure guard) := by
  unfold Host.countFailure
  split
  case h_1 => exact .pure _
  case h_2 id _ =>
    refine blurs.skip (fun h unmarked => marks_unmarked unmarked _ _) (.get fun h g related => ?_)
    have same : g.series = h.series := congrArg (·.series) (blurs.sources_eq related)
    rw [same]
    cases found : h.series[id]? with
    | none => exact ⟨rfl, related⟩
    | some s =>
      dsimp only
      cases counted : s.increment guard.identity.plain with
      | error e => exact ⟨rfl, related⟩
      | ok s' => exact ⟨rfl, blurs.failures related found counted⟩

/-- A guarded gauge gives its default in both, whatever it was that failed. -/
theorem guarded (guard : Guard) {t : Action Value} (respects : Respects R t) :
    Respects R (guarded guard t) := by
  intro h g related
  have alike := respects h g related
  unfold Host.guarded
  cases ran : t h with
  | ok v h' =>
    cases ran' : t g with
    | ok v' g' =>
      rw [ran, ran'] at alike
      rw [bind_of_ok (outcome_of_ok ran), bind_of_ok (outcome_of_ok ran')]
      exact alike
    | error e g' =>
      rw [ran, ran'] at alike
      exact alike.elim
  | error e h' =>
    cases ran' : t g with
    | ok v' g' =>
      rw [ran, ran'] at alike
      exact alike.elim
    | error e' g' =>
      rw [ran, ran'] at alike
      have noted := blurs.notes (h'.journal ++ [guardEntry guard e])
        (g'.journal ++ [guardEntry guard e']) h'.kept g'.kept alike
      rw [bind_of_ok (outcome_of_error ran), bind_of_ok (outcome_of_error ran')]
      dsimp only
      rw [bind_of_ok (report_run _ _), bind_of_ok (report_run _ _)]
      exact (blurs.countFailure guard _ _ noted).bind fun _ _ _ related => ⟨rfl, related⟩

theorem poll (query : Query) (guard : Option Guard) : Respects R (poll query guard) := by
  cases guard with
  | some guard => exact blurs.guarded guard (blurs.ask query)
  | none => exact blurs.ask query

theorem pollGauge (hd : Handle) : Respects R (pollGauge hd) := by
  refine .bind (.look fun h g related => by rw [blurs.instruments_eq related]) fun i => ?_
  split
  · exact blurs.skip (fun h unmarked => requireAllUnmarked_unmarked unmarked _ _) (blurs.poll _ _)
  · exact .throw _

/-! ## Statistics -/

theorem statistics_none_iff (related : R h g) (k : Nat) :
    g.statistics[k]? = none ↔ h.statistics[k]? = none := by
  rw [Array.getElem?_eq_none_iff, Array.getElem?_eq_none_iff, blurs.size_eq related]

/-- What are no statistics answer no question. -/
theorem read_other {item : Item} (other : item.asStatistics = none) {source : StatSource}
    {hd : Handle} (related : R h g)
    (here : h.instruments[hd.id]? = some (Instrument.ofSource item source)) :
    EndAlike R (read hd h) (read hd g) := by
  have here' : g.instruments[hd.id]? = some (Instrument.ofSource item source) := by
    rw [blurs.instruments_eq related, here]
  have asked (q : StatQuery) {f : Nat → Action Glance} : Respects R (question item q >>= f) := by
    intro h g related
    have unanswered (h : Host) : ∃ e k, (question item q >>= f) h = .error e { h with kept := k } := by
      have same : question item q = Host.askPart item q.partName := by
        cases item <;> first | rfl | cases other
      obtain ⟨e, k, ran⟩ := askPart_run (α := Nat) item q.partName h
      exact ⟨e, k, by rw [same, bind_of_error ran]⟩
    obtain ⟨e, k, ran⟩ := unanswered h
    obtain ⟨e', k', ran'⟩ := unanswered g
    rw [ran, ran']
    exact blurs.notes h.journal g.journal k k' related
  rw [read_of_glance here (kind_ofSource_ne _ _), read_of_glance here' (kind_ofSource_ne _ _)]
  refine EndAlike.bind ?_ fun shown => Respects.report shown
  rw [glance_ofSource (blurs.unmarked related) here,
    glance_ofSource (blurs.unmarked' related) here']
  cases source with
  | histogram stat => exact asked _ h g related
  | ticker stat => exact asked _ h g related

/-! ## Reads -/

/-- Instruments are read alike where the hosts agree on the statistics that they ask. -/
theorem read_alike (related : R h g) (hd : Handle)
    (agree : ∀ k source, h.instruments[hd.id]? = some (Instrument.ofSource (.statistics k) source) →
      g.statistics[k]? = h.statistics[k]?) : EndAlike R (read hd h) (read hd g) := by
  have unmarked := blurs.unmarked related
  have unmarked' := blurs.unmarked' related
  have instruments := blurs.instruments_eq related
  -- an instrument that reads statistics, of either kind
  have statistics (item : Item) (source : StatSource)
      (here : h.instruments[hd.id]? = some (Instrument.ofSource item source)) :
      EndAlike R (read hd h) (read hd g) := by
    cases asks : item.asStatistics with
    | none => exact blurs.read_other asks related here
    | some k =>
      obtain rfl : item = .statistics k := by
        cases item <;> cases asks
        rfl
      have same := agree k source here
      have here' : g.instruments[hd.id]? = some (Instrument.ofSource (.statistics k) source) := by
        rw [instruments, here]
      cases found : h.statistics[k]? with
      | none =>
        rw [read_statistics_unknown unmarked here found,
          read_statistics_unknown unmarked' here' (same.trans found)]
        exact related
      | some s =>
        rw [read_statistics unmarked here found, read_statistics unmarked' here' (same.trans found)]
        exact .ofExcept (blurs.asked k source.query related) _
  cases here : h.instruments[hd.id]? with
  | none =>
    have unknown {h : Host} (here : h.instruments[hd.id]? = none) :
        read hd h = .error .unknown h := bind_of_error (getInstrument_unknown here) _
    rw [unknown here, unknown (by rw [instruments, here])]
    exact related
  | some i =>
    have here' : g.instruments[hd.id]? = some i := by rw [instruments, here]
    cases i with
    | gauge query guard =>
      have shown (h : Host) (here : h.instruments[hd.id]? = some (.gauge query guard)) :
          glance hd h = (do return Glance.value (← Host.pollGauge hd)) h := by
        rw [glance, bind_of_ok (getInstrument_run here)]
      rw [read_of_glance here (by exact InstrumentKind.noConfusion),
        read_of_glance here' (by exact InstrumentKind.noConfusion), bind_of_eq (shown h here),
        bind_of_eq (shown g here')]
      have polled : Respects R (do return Glance.value (← Host.pollGauge hd)) :=
        .bind (blurs.pollGauge hd) fun v => .pure _
      exact (polled h g related).bind fun shown => Respects.report shown
    | counter total =>
      rw [read_counter unmarked here, read_counter unmarked' here']
      exact .ofExcept related _
    | histogram contents =>
      rw [read_histogram unmarked here, read_histogram unmarked' here']
      exact ⟨rfl, related⟩
    | statsCounter item stat => exact statistics item (.ticker stat) here
    | statsHistogram item stat => exact statistics item (.histogram stat) here

/-- Reading any instrument leaves related hosts related. -/
theorem read_after (related : R h g) (hd : Handle) : R ((read hd).after h) ((read hd).after g) := by
  by_cases asks : ∃ k source,
      h.instruments[hd.id]? = some (Instrument.ofSource (.statistics k) source)
  · obtain ⟨k, source, here⟩ := asks
    have here' : g.instruments[hd.id]? = some (Instrument.ofSource (.statistics k) source) := by
      rw [blurs.instruments_eq related, here]
    have counted {h : Host} {s : Statistics} (unmarked : h.marks = [])
        (here : h.instruments[hd.id]? = some (Instrument.ofSource (.statistics k) source))
        (found : h.statistics[k]? = some s) : (read hd).after h = h.asked k source.query := by
      rw [after, read_statistics unmarked here found]
      cases s.tell source <;> rfl
    cases found : h.statistics[k]? with
    | none =>
      rw [after_of_error (read_statistics_unknown (blurs.unmarked related) here found),
        after_of_error (read_statistics_unknown (blurs.unmarked' related) here'
          ((blurs.statistics_none_iff related k).mpr found))]
      exact related
    | some s =>
      cases found' : g.statistics[k]? with
      | none =>
        rw [(blurs.statistics_none_iff related k).mp found'] at found
        cases found
      | some s' =>
        rw [counted (blurs.unmarked related) here found,
          counted (blurs.unmarked' related) here' found']
        exact blurs.asked k source.query related
  · exact (blurs.read_alike related hd fun k source here => absurd ⟨k, source, here⟩ asks).after

end Blurs

/-! ## Members of a registry -/

/-- One answer, or a failure in both. -/
def SameAnswer : Except Fault α → Except Fault α → Prop
  | .ok a, .ok b => a = b
  | .error _, .error _ => True
  | _, _ => False

theorem EndAlike.answer {R : Host → Host → Prop} {t : Action α} {h g : Host}
    (alike : EndAlike R (t h) (t g)) : SameAnswer (t.answer h) (t.answer g) := by
  unfold Action.answer
  cases ran : t h <;> cases ran' : t g <;> rw [ran, ran'] at alike
  · exact alike.1
  · exact alike.elim
  · exact alike.elim
  · trivial

theorem SameAnswer.map {x y : Except Fault α} (same : SameAnswer x y) (f : α → β) :
    SameAnswer (x.map f) (y.map f) := by
  cases x <;> cases y
  · trivial
  · exact same.elim
  · exact same.elim
  · exact congrArg f same

namespace Host

/-- A member with what came of reading it; the host is as the read left it, but for reports. -/
theorem readReported_run (id : Nat) (name : MetricName) (hd : Handle) (h : Host) :
    ∃ m journal, readReported id name hd h =
        .ok m { (readMember id name hd).after h with journal := journal } ∧
      m.binding = (name, hd) ∧ m.outcome = ((readMember id name hd).answer h).map (·.2) := by
  unfold answer after
  cases ran : readMember id name hd h with
  | error e g => exact ⟨_, _, readReported_of_error ran, rfl, rfl⟩
  | ok told g => exact ⟨_, _, readReported_of_ok ran, rfl, rfl⟩

theorem readMember_unmarked {h : Host} (unmarked : h.marks = []) (id : Nat) {name : MetricName}
    {table : String} (located : name.table? = some table) (hd : Handle) :
    readMember id name hd h = (do return (table, ← read hd) : Action (String × Reading)) h := by
  rw [readMember, bind_of_ok (requireUnmarked_unmarked unmarked _ _), located]

theorem readMember_nowhere {h : Host} (unmarked : h.marks = []) (id : Nat) {name : MetricName}
    (nowhere : name.table? = none) (hd : Handle) : readMember id name hd h = .error .noTable h := by
  rw [readMember, bind_of_ok (requireUnmarked_unmarked unmarked _ _), nowhere]
  rfl

/-- The same member, and read alike if the statistics that its instrument asks are among these. -/
structure ReadAlike (instruments : Array Instrument) (agreeing : Nat → Prop) (m n : Member) :
    Prop where
  binding_eq : n.binding = m.binding
  outcome : (∀ k source, instruments[m.handle.id]? =
    some (Instrument.ofSource (.statistics k) source) → agreeing k) → SameAnswer m.outcome n.outcome

end Host

namespace Blurs

open Host

variable {R : Host → Host → Prop} (blurs : Blurs R) {h g : Host}

include blurs

theorem readMember_alike (related : R h g) (id : Nat) (name : MetricName) (hd : Handle)
    (agree : ∀ k source, h.instruments[hd.id]? = some (Instrument.ofSource (.statistics k) source) →
      g.statistics[k]? = h.statistics[k]?) :
    EndAlike R (readMember id name hd h) (readMember id name hd g) := by
  have unmarked := blurs.unmarked related
  have unmarked' := blurs.unmarked' related
  cases located : name.table? with
  | none =>
    rw [readMember_nowhere unmarked id located, readMember_nowhere unmarked' id located]
    exact related
  | some table =>
    have paired (reading : Reading) : Respects R (pure (table, reading)) := .pure _
    rw [readMember_unmarked unmarked id located, readMember_unmarked unmarked' id located]
    exact (blurs.read_alike related hd agree).bind paired

theorem readMember_after (related : R h g) (id : Nat) (name : MetricName) (hd : Handle) :
    R ((readMember id name hd).after h) ((readMember id name hd).after g) := by
  have unmarked := blurs.unmarked related
  have unmarked' := blurs.unmarked' related
  cases located : name.table? with
  | none =>
    rw [after_of_error (readMember_nowhere unmarked id located hd),
      after_of_error (readMember_nowhere unmarked' id located hd)]
    exact related
  | some table =>
    have run {h : Host} (unmarked : h.marks = []) :
        (readMember id name hd).after h = (read hd).after h := by
      unfold after
      rw [readMember_unmarked unmarked id located]
      cases ran : read hd h with
      | ok reading h' => rw [bind_of_ok ran]; rfl
      | error e h' => rw [bind_of_error ran]
    rw [run unmarked, run unmarked']
    exact blurs.read_after related hd

/-- Members are read in both hosts; those that ask statistics on which related hosts agree, or none,
are read alike. -/
theorem readMembers_alike (agreeing : Nat → Prop)
    (agree : ∀ {h g k}, agreeing k → R h g → g.statistics[k]? = h.statistics[k]?)
    (related : R h g) (id : Nat) (entries : List (MetricName × Handle)) :
    ∃ ms ms' h' g', readMembers id entries h = .ok ms h' ∧ readMembers id entries g = .ok ms' g' ∧
      R h' g' ∧ List.Forall₂ (ReadAlike h.instruments agreeing) ms ms' := by
  induction entries generalizing h g with
  | nil => exact ⟨[], [], h, g, rfl, rfl, related, .nil⟩
  | cons b rest ih =>
    obtain ⟨name, hd⟩ := b
    obtain ⟨m, journal, ran, binding, outcome⟩ := readReported_run id name hd h
    obtain ⟨m', journal', ran', binding', outcome'⟩ := readReported_run id name hd g
    have afterwards := blurs.notes journal journal' ((readMember id name hd).after h).kept
      ((readMember id name hd).after g).kept (blurs.readMember_after related id name hd)
    obtain ⟨ms, ms', h', g', rest_, rest', related', alike⟩ := ih afterwards
    have leaves := readMember_leaves id name hd h
    have instruments : ((readMember id name hd).after h).instruments = h.instruments :=
      congrArg (·.instruments) leaves
    have read : ReadAlike h.instruments agreeing m m' := by
      obtain ⟨rfl, rfl⟩ := Prod.mk.inj binding
      refine ⟨binding', fun asks => ?_⟩
      rw [outcome, outcome']
      exact (blurs.readMember_alike related id m.name m.handle fun k source here =>
        agree (asks k source here) related).answer.map _
    rw [← instruments] at read ⊢
    refine ⟨m :: ms, m' :: ms', h', g', ?_, ?_, related', .cons read alike⟩
    · rw [readMembers, bind_of_ok ran, bind_of_ok rest_]
      rfl
    · rw [readMembers, bind_of_ok ran', bind_of_ok rest']
      rfl

end Blurs

end StorageMetrics
