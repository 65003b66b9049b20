import StorageMetrics.Proofs.Host.Overlap

/-
  Reads that fail. A scrape goes on past a member whose read fails, wherever in the read that
  happens: it reports the failure once, in the turn of the member, shows nothing of it, and shows
  of every other member what that one gives by itself (`Host.scrape_skips`). The exception is the
  snapshot of a statistics histogram: its quantiles are asked for when its count and its sum were
  given out already, so that without a quantile these two stay (`Host.scrape_cut_short`).
-/

namespace StorageMetrics

open StorageMetrics.Action

/-! ## What comes of a member -/

namespace Member

/-- What went wrong with reading the member. -/
def failure? (m : Member) : Option Fault :=
  match m.outcome with
  | .error e => some e
  | .ok reading => reading.fault?

/-- What is reported of the member. -/
def report? (m : Member) : Option JournalEntry := m.failure?.map (Host.readFailedEntry m.name)

variable {m : Member} {reading : Reading} {e : Fault}

theorem failure?_of_error (failed : m.outcome = .error e) : m.failure? = some e := by
  rw [failure?, failed]

theorem failure?_of_ok (told : m.outcome = .ok reading) : m.failure? = reading.fault? := by
  rw [failure?, told]

/-- The read failed when a part of it was given out. -/
def IsCutShort (m : Member) : Prop := ∃ reading, m.outcome = .ok reading ∧ reading.fault? ≠ none

end Member

namespace Reading

/-- Only a summary can be cut short, after its count and its sum. -/
theorem eq_summary_of_fault? {reading : Reading} {e : Fault} (faulty : reading.fault? = some e) :
    ∃ count sum, reading = .summary count sum (.error e) := by
  cases reading with
  | summary count sum quantiles =>
    cases quantiles with
    | error e' => cases faulty; exact ⟨count, sum, rfl⟩
    | ok qs => cases faulty
  | gauge _ | count _ | distribution _ => cases faulty

end Reading

/-- Only the instruments of statistics histograms make summaries. -/
theorem InstrumentKind.eq_statsHistogram {kind : InstrumentKind} (series : kind.series = .summary) :
    kind = .statsHistogram := by
  cases kind <;> first | rfl | cases series

namespace Host

variable {h h' : Host} {id : Nat} {r : Registry}

/-- What was reported, but for the reports of guards. -/
def reported (h : Host) : Journal := h.journal.filter fun e => e.reporter ≠ .guard

/-- What no read changes, nor the report of its failure. -/
def steady (h : Host) : Host := { h.leftByReads with journal := [] }

theorem presented_of_steady {g : Host} (same : g.steady = h.steady) : g.presented = h.presented :=
  congrArg (fun k : Host => ({ registries := k.registries, instruments := k.instruments
                               strays := k.strays, marks := k.marks } : Host)) same

theorem reported_report (h : Host) (name : MetricName) (e : Fault) :
    reported { h with journal := h.journal ++ [readFailedEntry name e] } =
      h.reported ++ [readFailedEntry name e] := List.filter_append _ _

/-- A member is read once, and a failure is reported once. -/
theorem readReported_tells {name : MetricName} {hd : Handle} {m : Member}
    (ran : readReported id name hd h = .ok m h') :
    m.outcome = ((readMember id name hd).answer h).map (·.2) ∧ m.binding = (name, hd) ∧
      h'.steady = h.steady ∧ h'.reported = h.reported ++ m.report?.toList := by
  have left := readMember_leaves id name hd h
  have steady : ((readMember id name hd).after h).steady = h.steady :=
    congrArg (fun k : Host => { k with journal := [] }) left
  have same : ((readMember id name hd).after h).reported = h.reported := congrArg Host.journal left
  cases wasRead : readMember id name hd h with
  | error e g =>
    rw [after_of_error wasRead] at same steady
    rw [answer_of_error wasRead]
    rw [readReported_of_error wasRead] at ran
    cases ran
    refine ⟨rfl, rfl, steady, ?_⟩
    rw [reported_report, same, Member.report?, Member.failure?_of_error rfl]
    rfl
  | ok told g =>
    obtain ⟨table, reading⟩ := told
    rw [after_of_ok wasRead] at same steady
    rw [answer_of_ok wasRead]
    rw [readReported_of_ok wasRead] at ran
    cases ran
    refine ⟨rfl, rfl, steady, ?_⟩
    rw [Member.report?, Member.failure?_of_ok rfl, ← same]
    cases reading.fault? with
    | some e => exact reported_report g name e
    | none =>
      simp only [Option.map_none, Option.toList_none, List.append_nil]

/-- Members are read one after the other, each of them where the reads before it changed nothing
that matters, and what fails is reported in this order. -/
theorem readMembers_tells {entries : List (MetricName × Handle)} {ms : List Member}
    (ran : readMembers id entries h = .ok ms h') :
    (∀ m ∈ ms, ∃ g : Host, g.steady = h.steady ∧
      m.outcome = ((readMember id m.name m.handle).answer g).map (·.2)) ∧
    h'.reported = h.reported ++ ms.filterMap Member.report? := by
  induction entries generalizing h ms with
  | nil =>
    cases ran
    exact ⟨List.forall_mem_nil _, (List.append_nil _).symm⟩
  | cons b rest ih =>
    obtain ⟨name, hd⟩ := b
    obtain ⟨m, g, wasRead, ran⟩ := ok_of_bind ran
    obtain ⟨ms', g', wereRead, ran⟩ := ok_of_bind ran
    cases ran
    obtain ⟨outcome, binding, steady, reports⟩ := readReported_tells wasRead
    obtain ⟨outcomes, reportsRest⟩ := ih wereRead
    refine ⟨List.forall_mem_cons.mpr ⟨⟨h, rfl, ?_⟩, fun n mem => ?_⟩, ?_⟩
    · obtain ⟨rfl, rfl⟩ := Prod.mk.inj binding
      exact outcome
    · obtain ⟨k, same, outcome⟩ := outcomes n mem
      exact ⟨k, same.trans steady, outcome⟩
    · rw [reportsRest, reports, List.append_assoc, List.filterMap_cons]
      cases m.report? <;> rfl

/-- What is told of a member is of its table, and makes the series that it is known by. -/
theorem told_of_member (presents : h.Presents id r) {m : Member}
    (bound : r.bindings.get? m.name = some m.handle) {g : Host} (same : g.steady = h.steady)
    (outcome : m.outcome = ((readMember id m.name m.handle).answer g).map (·.2))
    {reading : Reading} (told : m.outcome = .ok reading) :
    (∃ table, m.name.table? = some table) ∧ reading.series = m.handle.kind.series := by
  rw [told] at outcome
  cases ran : readMember id m.name m.handle g with
  | error e g' =>
    rw [answer_of_error ran] at outcome
    cases outcome
  | ok found g' =>
    rw [answer_of_ok ran] at outcome
    cases outcome
    obtain ⟨located, series⟩ := readMember_ok (presents.congr (presented_of_steady same)) bound ran
    exact ⟨⟨_, located⟩, series⟩

/-- A scrape of a reachable registry goes on past every member whose read fails, wherever in the
read that happens. It reports the failures alone, each of them once and in the order of the members,
and what it shows is what the members show that it read, each by itself: nothing of a member whose
read failed, unless its read was cut short, and everything of one whose read went through. Only
statistics histograms can be cut short, and then their count and their sum are shown. -/
theorem scrape_skips (presents : h.Presents id r) (reachable : r.Reachable)
    (named : ∀ b ∈ r.bindings.entries, ¬ r.Nameless b.1 b.2) :
    ∃ (ms : List Member) (families : List Family) (h' : Host),
      scrapeRegistry id h = .ok families h' ∧
      ms.map Member.binding = r.bindings.entries ∧
      (∀ m ∈ ms, ∃ g : Host, g.steady = h.steady ∧
        m.outcome = ((readMember id m.name m.handle).answer g).map (·.2)) ∧
      h'.reported = h.reported ++ ms.filterMap Member.report? ∧
      (families.flatMap (·.samples)).Perm (ms.flatMap r.samplesAlone) ∧
      (∀ m ∈ ms, m.failure? ≠ none → ¬ m.IsCutShort → r.samplesAlone m = []) ∧
      (∀ m ∈ ms, ∀ reading, m.outcome = .ok reading → r.samplesAlone m =
        Family.readingSamples (r.familyFor m).name m.name.labels m.name.labels reading) ∧
      ∀ m ∈ ms, m.IsCutShort → m.handle.kind = .statsHistogram ∧ ∃ count sum, r.samplesAlone m =
        [⟨(r.familyFor m).name ++ "_count", m.name.labels, count⟩,
          ⟨(r.familyFor m).name ++ "_sum", m.name.labels, sum⟩] := by
  have exact := reachable.exact
  obtain ⟨ms, h', t, wereRead, bindings, fits, -, assembled, presents', ran⟩ :=
    scrapeMembers_run presents (fun b mem => exact.get?_of_mem mem) named Registry.assembled_nil
  obtain ⟨outcomes, reports⟩ := readMembers_tells wereRead
  have listed (m : Member) (mem : m ∈ ms) : m.binding ∈ r.bindings.entries :=
    bindings ▸ List.mem_map_of_mem mem
  have alone (m : Member) (mem : m ∈ ms) : r.samplesAlone m = (r.familyFor m).samplesOf m :=
    Registry.samplesAlone_eq (named m.binding (listed m mem))
  have shown (m : Member) (mem : m ∈ ms) (reading : Reading) (told : m.outcome = .ok reading) :
      r.samplesAlone m =
        Family.readingSamples (r.familyFor m).name m.name.labels m.name.labels reading := by
    obtain ⟨g, same, outcome⟩ := outcomes m mem
    obtain ⟨⟨table, located⟩, -⟩ :=
      told_of_member presents (exact.get?_of_mem (listed m mem)) same outcome told
    rw [alone m mem, Member.samplesOf_of_table located, told]
  refine ⟨ms, t.values, h', scrapeRegistry_of_members presents presents' ran, bindings, outcomes,
    reports, ?_, fun m mem failed whole => ?_, shown, fun m mem cut => ?_⟩
  · rw [List.flatMap_congr alone]
    exact assembled.samples_perm (exact.agree bindings)
  · cases told : m.outcome with
    | error e =>
      rw [alone m mem, Family.samplesOf, Member.located?, told]
      cases m.name.table? <;> rfl
    | ok reading =>
      rw [Member.failure?_of_ok told] at failed
      exact absurd ⟨reading, told, failed⟩ whole
  · obtain ⟨reading, told, faulty⟩ := cut
    obtain ⟨e, faulty⟩ := Option.ne_none_iff_exists'.mp faulty
    obtain ⟨count, sum, rfl⟩ := Reading.eq_summary_of_fault? faulty
    have series := fits m mem _ told
    exact ⟨InstrumentKind.eq_statsHistogram series.symm, count, sum, shown m mem _ told⟩

/-! ## One instrument -/

/-- The label of the instruments below. -/
def seekName : MetricName := TableScope.all.name "DbSeek"

/-- A registry with one instrument, the first one of the process. -/
def oneInstrument (kind : InstrumentKind) : Registry :=
  ({ exportName := .str "db" } : Registry).bind seekName ⟨0, kind⟩

theorem register_first (kind : InstrumentKind) :
    ({ exportName := .str "db" } : Registry).register seekName (.instrument ⟨0, kind⟩) =
      .ok ⟨oneInstrument kind, ⟨0, kind⟩, false⟩ := rfl

theorem oneInstrument_reachable (kind : InstrumentKind) : (oneInstrument kind).Reachable :=
  .registered (.empty (.str "db")) (register_first kind)

theorem entries_oneInstrument (kind : InstrumentKind) :
    (oneInstrument kind).bindings.entries = [(seekName, ⟨0, kind⟩)] :=
  OrderedMap.entries_insert_of_not_mem List.not_mem_nil

theorem oneInstrument_named (kind : InstrumentKind) :
    ∀ b ∈ (oneInstrument kind).bindings.entries, ¬ (oneInstrument kind).Nameless b.1 b.2 :=
  fun _ _ nameless => absurd (show "db" = "" from nameless.exportName) (by decide)

/-- The host of a process that just made its first registry, these statistics and this
instrument. -/
def beforeWatching (s : Statistics) (i : Instrument) : Host :=
  { started (.str "db") with statistics := #[s], instruments := #[i] }

/-- The host of such a process when it has registered the instrument. -/
def watching (s : Statistics) (i : Instrument) : Host :=
  (register 0 seekName (.instrument ⟨0, i.kind⟩)).after (beforeWatching s i)

theorem beforeWatching_holds (s : Statistics) (i : Instrument) :
    (beforeWatching s i).Holds 0 { exportName := .str "db" } := by
  obtain ⟨series, targets, journal, same⟩ := started_eq (.str "db")
  rw [beforeWatching, same]
  exact ⟨rfl, rfl⟩

theorem watching_eq (s : Statistics) (i : Instrument) :
    watching s i = (beforeWatching s i).rebind 0 (oneInstrument i.kind) [] := by
  have ran := register_run (beforeWatching_holds s i) seekName (.instrument ⟨0, i.kind⟩)
  rw [register_first] at ran
  exact after_of_ok ran

theorem watching_presents (s : Statistics) (i : Instrument) :
    (watching s i).Presents 0 (oneInstrument i.kind) := by
  rw [watching_eq]
  refine ((beforeWatching_holds s i).rebind _ _).presents ?_ fun name hd bound j found => ?_
  · obtain ⟨series, targets, journal, same⟩ := started_eq (.str "db")
    show (started (.str "db")).marks = []
    rw [same]
  · have entry := OrderedMap.mem_of_get? bound
    rw [entries_oneInstrument] at entry
    cases List.mem_singleton.mp entry
    cases found
    rfl

/-- A gauge whose cell is not there. -/
def broken : Instrument := .gauge (.cell "down") none

theorem scrape_skips_broken :
    (watching {} broken).Presents 0 (oneInstrument .gauge) ∧ (oneInstrument .gauge).Reachable ∧
      (∀ b ∈ (oneInstrument .gauge).bindings.entries, ¬ (oneInstrument .gauge).Nameless b.1 b.2) ∧
      ∃ (ms : List Member) (families : List Family) (h' : Host),
        scrapeRegistry 0 (watching {} broken) = .ok families h' ∧
        ms.map Member.binding = [(seekName, ⟨0, .gauge⟩)] ∧
        h'.reported = (watching {} broken).reported ++ ms.filterMap Member.report? ∧
        (families.flatMap (·.samples)).Perm (ms.flatMap (oneInstrument .gauge).samplesAlone) := by
  have presents : (watching {} broken).Presents 0 (oneInstrument .gauge) :=
    watching_presents {} broken
  have reachable := oneInstrument_reachable .gauge
  have named := oneInstrument_named .gauge
  obtain ⟨ms, families, h', scraped, bindings, -, reports, shown, -⟩ :=
    scrape_skips presents reachable named
  rw [entries_oneInstrument] at bindings
  exact ⟨presents, reachable, named, ms, families, h', scraped, bindings, reports, shown⟩

/-- A snapshot with a count and a sum and without quantiles. -/
def partSnapshot : Snapshot := ⟨[("count", .int 3), ("sum", .int 12)]⟩

/-- Statistics with that snapshot, and the instrument that shows it. -/
def cutShort : Host :=
  watching (({} : Statistics).setSnapshot .dbSeek (some partSnapshot))
    (.statsHistogram (.statistics 0) .dbSeek)

/-- Whether the reads of these members fail. -/
def failures (id : Nat) (entries : List (MetricName × Handle)) (h : Host) : List Bool :=
  match readMembers id entries h with
  | .ok ms _ => ms.map (·.failure?.isSome)
  | .error _ _ => []

/-- The read of the histogram fails, and yet its count and its sum are shown. -/
theorem scrape_cut_short :
    cutShort.Presents 0 (oneInstrument .statsHistogram) ∧
      (oneInstrument .statsHistogram).Reachable ∧
      failures 0 (oneInstrument .statsHistogram).bindings.entries cutShort = [true] ∧
      ∃ families h', scrapeRegistry 0 cutShort = .ok families h' ∧
        (families.flatMap (·.samples)).map Sample.key =
          [("db_db_seek_count", [("keyspace", "all"), ("scope", "all")]),
            ("db_db_seek_sum", [("keyspace", "all"), ("scope", "all")])] := by
  refine ⟨watching_presents _ _, oneInstrument_reachable _, ?_, scraped_of_shownKeys ?_⟩
  · rw [entries_oneInstrument]
    decide +kernel
  · decide +kernel

end Host

end StorageMetrics
