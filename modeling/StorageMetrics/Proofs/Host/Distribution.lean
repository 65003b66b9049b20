import StorageMetrics.Proofs.Histogram
import StorageMetrics.Proofs.Host.Owners
import StorageMetrics.Proofs.Host.Skipping

/-
  Histograms that are written while the host goes on. An update gives the instrument what its
  contents make of the value, and nothing else matters to it, so the contents are those of the fresh
  histogram after all the numbers that it received (`Receives.held`). A scrape reads them as they
  stand: where the first bound is not negative it shows what the histogram itself tells
  (`histogram_tells_distribution`). Over other bounds no sum is reported, and it is told as zero
  whatever was received (`sum_told_unless_negative_bound`).
-/

namespace StorageMetrics

open StorageMetrics.Action

/-! ## Series -/

namespace Histogram

/-- The samples of a histogram in a family: its buckets, its count and its sum, as reading it tells
them. -/
def samples (contents : Histogram) (family : String) (labels : SampleLabels) : List Sample :=
  (contents.buckets.map fun b =>
      ⟨family ++ "_bucket", labels ++ [("le", b.1)], .float (Float.ofNat b.2)⟩) ++
    [⟨family ++ "_count", labels, .float (Float.ofNat contents.count)⟩,
      ⟨family ++ "_sum", labels, contents.sum⟩]

theorem hasSum_eq {contents : Histogram} {first : Float}
    (starts : contents.bounds.head? = some first) :
    contents.hasSum = decide (Number.int 0 ≤ .float first) := by
  obtain ⟨rest, same⟩ := List.head?_eq_some_iff.mp starts
  rw [hasSum, same]

theorem sum_eq {contents : Histogram} {first total : Float}
    (starts : contents.bounds.head? = some first) (counted : contents.total = .float total) :
    contents.sum = .float (if Number.int 0 ≤ .float first then total else 0) := by
  rw [sum, hasSum_eq starts, counted]
  by_cases positive : Number.int 0 ≤ .float first <;> simp [positive]

theorem readingSamples_eq {contents : Histogram} (summed : contents.hasSum = true)
    (present : contents.total ≠ .none) (family : String) (labels : SampleLabels) :
    Family.readingSamples family labels labels (.distribution contents) =
      contents.samples family labels := by
  have isSummed : contents.isSummed = true := (isSummed_eq present).trans summed
  have same : contents.sum = contents.total := by rw [sum, if_pos summed]
  unfold Family.readingSamples samples
  dsimp only
  rw [if_pos isSummed, same]

end Histogram

namespace Host

variable {h g : Host} {id : Nat} {r : Registry}

/-! ## Numbers received -/

theorem instruments_setTotal {hd : Handle} {i : Instrument} (here : h.instruments[hd.id]? = some i)
    (j : Instrument) : ((setTotal hd j).after h).instruments[hd.id]? = some j := by
  obtain ⟨inside, -⟩ := Array.getElem?_eq_some_iff.mp here
  show (h.instruments.setIfInBounds hd.id j)[hd.id]? = some j
  rw [Array.getElem?_setIfInBounds, if_pos rfl, if_pos inside]

/-- The histogram was this one, and on the host it has received these numbers since. Whatever else
went on left it as it was and put no marks. -/
inductive Receives (fresh : Histogram) (hd : Handle) : List Number → Host → Prop
  | made {h : Host} (unmarked : h.marks = [])
      (here : h.instruments[hd.id]? = some (.histogram fresh)) : Receives fresh hd [] h
  | update {h g : Host} {ns v n contents} (received : Receives fresh hd ns h)
      (number : v.number? = some n) (ran : update hd v h = .ok contents g) :
      Receives fresh hd (ns ++ [n]) g
  | other {h g : Host} {ns} (received : Receives fresh hd ns h) (unmarked : g.marks = [])
      (same : g.instruments[hd.id]? = h.instruments[hd.id]?) : Receives fresh hd ns g

/-- The sum of the numbers was not refused, and the contents are those after these numbers. -/
theorem Receives.held {biased : Value} {bounds : List Float} {hd : Handle} {ns : List Number}
    (received : Receives (.empty biased bounds) hd ns h) :
    h.marks = [] ∧ ∃ total, Number.sum ns = .ok total ∧
      h.instruments[hd.id]? = some (.histogram ((Histogram.empty biased bounds).after ns total)) := by
  induction received with
  | made unmarked here => exact ⟨unmarked, 0, rfl, here⟩
  | @update h g ns v n contents received number ran ih =>
    obtain ⟨unmarked, total, summed, here⟩ := ih
    rw [update_run unmarked here, Histogram.update_after _ ns total number] at ran
    cases rounded : n.toFloat with
    | error e =>
      rw [rounded] at ran
      cases ran
    | ok x =>
      rw [rounded] at ran
      cases ran
      refine ⟨unmarked, total + x, ?_, instruments_setTotal here _⟩
      rw [Number.sum_append_singleton, summed, rounded]
      rfl
  | other received unmarked same ih =>
    obtain ⟨-, total, summed, here⟩ := ih
    exact ⟨unmarked, total, summed, same.trans here⟩

/-- Numbers that have a sum can be received. -/
theorem exists_receives {biased : Value} {bounds : List Float} {hd : Handle} (unmarked : h.marks = [])
    (here : h.instruments[hd.id]? = some (.histogram (.empty biased bounds))) {ns : List Number}
    {total : Float} (summed : Number.sum ns = .ok total) :
    ∃ g, Receives (.empty biased bounds) hd ns g := by
  induction ns using List.reverseRecOn generalizing total with
  | nil => exact ⟨h, .made unmarked here⟩
  | append_singleton ns n ih =>
    rw [Number.sum_append_singleton] at summed
    obtain ⟨before, summedBefore, summed⟩ := ok_of_except_bind summed
    obtain ⟨x, rounded, -⟩ := ok_of_except_bind summed
    obtain ⟨g, received⟩ := ih summedBefore
    obtain ⟨unmarked', total', -, here'⟩ := received.held
    have number : n.toValue.number? = some n := by cases n <;> rfl
    have ran := update_run unmarked' here' n.toValue
    rw [Histogram.update_after _ ns total' number, rounded] at ran
    exact ⟨_, received.update number ran⟩

/-- What is read of a histogram by itself is its contents. -/
theorem glance_histogram (unmarked : h.marks = []) {hd : Handle} {contents : Histogram}
    (here : h.instruments[hd.id]? = some (.histogram contents)) :
    glance hd h = .ok (.histogram contents) h := by
  rw [glance, bind_of_ok (getInstrument_run here)]
  dsimp only
  rw [bind_of_ok (requireAllUnmarked_unmarked unmarked _ _),
    bind_of_ok (readContents_unmarked unmarked hd contents)]
  rfl

/-! ## Scrapes -/

/-- A bound histogram is among the members of a scrape, and read as it stands. -/
theorem scrape_reads_histogram (unmarked : h.marks = []) (presents : h.Presents id r)
    (reachable : r.Reachable) (named : ∀ b ∈ r.bindings.entries, ¬ r.Nameless b.1 b.2)
    {name : MetricName} {table : String} (located : name.table? = some table) {hd : Handle}
    (bound : r.bindings.get? name = some hd) {contents : Histogram}
    (here : h.instruments[hd.id]? = some (.histogram contents)) :
    ∃ ms t g, ms.map Member.binding = r.bindings.entries ∧ r.Exposes ms t ∧
      scrapeRegistry id h = .ok t.values g ∧
      ∃ m ∈ ms, m.binding = (name, hd) ∧ r.samplesAlone m =
        Family.readingSamples (r.family name.name) name.labels name.labels (.distribution contents) := by
  have exact := reachable.exact
  obtain ⟨ms, h', t, wereRead, bindings, fits, assembled, -, presents', ran⟩ :=
    scrapeMembers_run presents (fun b mem => exact.get?_of_mem mem) named Registry.assembled_nil
  have listed (m : Member) (mem : m ∈ ms) : m.binding ∈ r.bindings.entries :=
    bindings ▸ List.mem_map_of_mem mem
  obtain ⟨u, alsoAssembled, exposes⟩ := Registry.assemble_exposes (exact.agree bindings)
    (fun m mem => named m.binding (listed m mem)) fits
  obtain rfl := Except.ok.inj (assembled.symm.trans alsoAssembled)
  obtain ⟨ms', _, alsoRead, -, -, outcomes⟩ := readMembers_quiet unmarked id r.bindings.entries
  obtain ⟨rfl, -⟩ := EStateM.Result.ok.inj (wereRead.symm.trans alsoRead)
  have entry : (name, hd) ∈ ms.map Member.binding := bindings ▸ OrderedMap.mem_of_get? bound
  obtain ⟨m, mem, same⟩ := List.mem_map.mp entry
  refine ⟨ms, t, h', bindings, exposes, scrapeRegistry_of_members presents presents' ran, m, mem,
    same, ?_⟩
  obtain ⟨rfl, rfl⟩ := Prod.mk.inj same
  -- the members before it were read first, and none of these reads touches an instrument
  obtain ⟨k, quiet, outcome⟩ := outcomes m mem
  have unmarked' : k.marks = [] := quiet.marks_eq.trans unmarked
  have here' : k.instruments[m.handle.id]? = some (.histogram contents) := by
    rw [quiet.instruments_eq]
    exact here
  have told : m.outcome = .ok (.distribution contents) := by
    rw [outcome, answer_readMember unmarked' id located,
      answer_of_ok (read_histogram unmarked' here')]
  have family : (r.familyFor m).name = r.family m.name.name := by
    have kind : m.handle.kind = .histogram := (presents.kinds_eq _ _ bound _ here).symm
    unfold Registry.familyFor Registry.key
    dsimp only
    rw [kind, if_neg (by decide)]
  rw [Registry.samplesAlone_eq (named m.binding (listed m mem)), Member.samplesOf_of_table located,
    told, family]

/-! ## One histogram -/

theorem watching_unmarked (s : Statistics) (i : Instrument) : (watching s i).marks = [] := by
  obtain ⟨series, targets, journal, same⟩ := started_eq (.str "db")
  rw [watching_eq]
  show (started (.str "db")).marks = []
  rw [same]

theorem watching_instruments (s : Statistics) (i : Instrument) :
    (watching s i).instruments = #[i] := by
  rw [watching_eq]
  rfl

/-- A registered histogram, when it has received these numbers. -/
def watchingHistogram (bounds : List Float) (ns : List Number) (total : Float) : Host :=
  watching {} (.histogram ((Histogram.empty (.bool false) bounds).after ns total))

theorem watchingHistogram_receives (bounds : List Float) {ns : List Number} {total : Float}
    (summed : Number.sum ns = .ok total) :
    Receives (.empty (.bool false) bounds) ⟨0, .histogram⟩ ns
      (watchingHistogram bounds ns total) := by
  have here (contents : Histogram) : (watching {} (.histogram contents)).instruments[0]? =
      some (.histogram contents) := by
    rw [watching_instruments]
    rfl
  obtain ⟨g, received⟩ : ∃ g, Receives (.empty (.bool false) bounds) ⟨0, .histogram⟩ ns g :=
    exists_receives (watching_unmarked {} _) (here (.empty (.bool false) bounds)) summed
  obtain ⟨-, total', alsoSummed, held⟩ := received.held
  obtain rfl := Except.ok.inj (summed.symm.trans alsoSummed)
  exact received.other (watching_unmarked {} _) ((here _).trans held.symm)

theorem made_over {vs : List Value} (xs : List Float) {bounds : List Float}
    (read : vs.mapM Value.toFloat = .ok xs) (ascends : Histogram.ascending xs = true)
    (closed : Histogram.close xs = bounds) (many : 2 ≤ bounds.length) :
    Histogram.ofValues (.bool false) (.list vs) = .ok (.empty (.bool false) bounds) := by
  subst closed
  exact Histogram.ofValues_eq_ok_iff.mpr ⟨xs, read, ascends, many, rfl⟩

/-! ## What is told -/

/-- A histogram over bounds that are numbers, which has received numbers, tells its bounds in order,
each with how many of the numbers are at most this bound, and in all how many there are. Where the
first bound is not negative, a scrape of a registry that holds it, under a name with a table, shows
just what it tells. -/
theorem histogram_tells_distribution {biased bounds : Value} {fresh : Histogram}
    (made : Histogram.ofValues biased bounds = .ok fresh)
    (numeric : ∀ b ∈ fresh.bounds, ¬ (Number.float b).IsNaN) {ns : List Number}
    (numbers : ∀ n ∈ ns, ¬ n.IsNaN) {hd : Handle} (received : Receives fresh hd ns h) :
    (∃ xs, Histogram.layout biased bounds = .ok xs ∧ fresh.bounds = Histogram.close xs) ∧
    ∃ contents, glance hd h = .ok (.histogram contents) h ∧ contents.Tells fresh.bounds ns ∧
      ∀ first, fresh.bounds.head? = some first → Number.int 0 ≤ .float first →
        ∀ id r name table, h.Presents id r → r.Reachable →
          (∀ b ∈ r.bindings.entries, ¬ r.Nameless b.1 b.2) →
          r.bindings.get? name = some hd → name.table? = some table →
            ∃ ms t g, ms.map Member.binding = r.bindings.entries ∧ r.Exposes ms t ∧
              scrapeRegistry id h = .ok t.values g ∧
              ∃ m ∈ ms, m.binding = (name, hd) ∧
                r.samplesAlone m = contents.samples (r.family name.name) name.labels := by
  obtain ⟨xs, laid, ascends, many, rfl⟩ := Histogram.ofValues_eq_ok_iff.mp made
  obtain ⟨ordered, closed⟩ := Histogram.ordered_close ascends many numeric
  obtain ⟨unmarked, total, -, here⟩ := received.held
  refine ⟨⟨xs, laid, rfl⟩, _, glance_histogram unmarked here,
    Histogram.tells_after ordered closed numbers total, ?_⟩
  intro first starts positive id r name table presents reachable named bound located
  have summed : ((Histogram.empty biased (Histogram.close xs)).after ns total).hasSum = true :=
    (Histogram.hasSum_eq starts).trans (decide_eq_true positive)
  rw [← Histogram.readingSamples_eq summed Value.noConfusion]
  exact scrape_reads_histogram unmarked presents reachable named located bound here

/-- A histogram over bounds of which one is there twice, when it has received this bound and infinity. -/
def twiceBounded : Host := watchingHistogram [0, 1, 1, 1 / 0] [.int 1, .float (1 / 0)] (1 / 0)

theorem histogram_tells_distribution_twiceBounded :
    Histogram.ofValues (.bool false) (.list [.int 0, .int 1, .int 1]) =
        .ok (.empty (.bool false) [0, 1, 1, 1 / 0]) ∧
      (∀ b ∈ [0, 1, 1, 1 / 0], ¬ (Number.float b).IsNaN) ∧
      (∀ n ∈ [Number.int 1, .float (1 / 0)], ¬ n.IsNaN) ∧
      Receives (.empty (.bool false) [0, 1, 1, 1 / 0]) ⟨0, .histogram⟩ [.int 1, .float (1 / 0)]
        twiceBounded ∧
      ∃ contents ms t g, glance ⟨0, .histogram⟩ twiceBounded = .ok (.histogram contents) twiceBounded ∧
        contents.buckets = [("0.0", 0), ("1.0", 1), ("1.0", 1), ("+Inf", 2)] ∧
        contents.count = 2 ∧ (oneInstrument .histogram).Exposes ms t ∧
        scrapeRegistry 0 twiceBounded = .ok t.values g ∧
        ∃ m ∈ ms, m.binding = (seekName, ⟨0, .histogram⟩) ∧
          (oneInstrument .histogram).samplesAlone m =
            contents.samples ((oneInstrument .histogram).family "DbSeek") seekName.labels := by
  have made : Histogram.ofValues (.bool false) (.list [.int 0, .int 1, .int 1]) =
      .ok (.empty (.bool false) [0, 1, 1, 1 / 0]) :=
    made_over [0, 1, 1] rfl (by decide +kernel) (by decide +kernel) (by decide)
  have numeric : ∀ b ∈ ([0, 1, 1, 1 / 0] : List Float), ¬ (Number.float b).IsNaN := by
    unfold Number.IsNaN
    decide +kernel
  have numbers : ∀ n ∈ [Number.int 1, .float (1 / 0)], ¬ n.IsNaN := by
    unfold Number.IsNaN
    simp only [List.forall_mem_cons]
    decide +kernel
  have received : Receives (.empty (.bool false) [0, 1, 1, 1 / 0]) ⟨0, .histogram⟩
      [.int 1, .float (1 / 0)] twiceBounded := watchingHistogram_receives _ rfl
  obtain ⟨-, contents, read, tells, shown⟩ :=
    histogram_tells_distribution made numeric numbers received
  obtain ⟨ms, t, g, -, exposes, scraped, m, mem, binding, samples⟩ :=
    shown 0 rfl (by decide +kernel) 0 (oneInstrument .histogram) seekName "all"
      (watching_presents _ _) (oneInstrument_reachable _) (oneInstrument_named _)
      ((OrderedMap.get?_insert ..).trans (if_pos rfl)) (by decide +kernel)
  refine ⟨made, numeric, numbers, received, contents, ms, t, g, read, ?_, tells.count_eq, exposes,
    scraped, m, mem, binding, samples⟩
  rw [tells.buckets_eq]
  decide +kernel

/-- All histograms that have received the same numbers tell one sum, the running sum of the numbers,
but those whose first bound is negative or NaN: no sum is reported of them, and they tell zero. -/
theorem sum_told_unless_negative_bound (ns : List Number) :
    ∃ total : Float, ∀ {biased bounds : Value} {fresh : Histogram} {hd : Handle} {h : Host},
      Histogram.ofValues biased bounds = .ok fresh → Receives fresh hd ns h →
        Number.sum ns = .ok total ∧ ∃ first rest contents, fresh.bounds = first :: rest ∧
          glance hd h = .ok (.histogram contents) h ∧
          contents.sum = .float (if Number.int 0 ≤ .float first then total else 0) := by
  refine ⟨(Number.sum ns).toOption.getD 0, fun made received => ?_⟩
  obtain ⟨xs, laid, ascends, many, rfl⟩ := Histogram.ofValues_eq_ok_iff.mp made
  obtain ⟨unmarked, total, summed, here⟩ := received.held
  have present : Histogram.close xs ≠ [] := by
    intro none
    rw [none] at many
    exact absurd many (by decide)
  obtain ⟨first, rest, starts⟩ := List.exists_cons_of_ne_nil present
  refine ⟨by rw [summed]; rfl, first, rest, _, starts, glance_histogram unmarked here, ?_⟩
  rw [Histogram.sum_eq (congrArg List.head? starts) rfl, summed]
  rfl

/-- A registered histogram over these bounds, when it has received a 2. -/
def afterTwo (bounds : List Float) : Host := watchingHistogram bounds [.int 2] 2

theorem afterTwo_receives (bounds : List Float) :
    Receives (.empty (.bool false) bounds) ⟨0, .histogram⟩ [.int 2] (afterTwo bounds) :=
  watchingHistogram_receives bounds rfl

/-- The standard layout and another one that starts at zero tell the same sum. -/
theorem sum_told_unless_negative_bound_twoLayouts :
    Histogram.ofValues (.bool false) .none = .ok (.empty (.bool false) Histogram.secondBounds) ∧
      Histogram.ofValues (.bool false) (.list [.int 0, .int 1]) =
        .ok (.empty (.bool false) [0, 1, 1 / 0]) ∧
      ∀ bounds ∈ [Histogram.secondBounds, [0, 1, 1 / 0]],
        Receives (.empty (.bool false) bounds) ⟨0, .histogram⟩ [.int 2] (afterTwo bounds) ∧
        ∃ contents, glance ⟨0, .histogram⟩ (afterTwo bounds) =
          .ok (.histogram contents) (afterTwo bounds) ∧ contents.sum = .float 2 := by
  have standard : Histogram.ofValues (.bool false) .none =
      .ok (.empty (.bool false) Histogram.secondBounds) := rfl
  have made : Histogram.ofValues (.bool false) (.list [.int 0, .int 1]) =
      .ok (.empty (.bool false) [0, 1, 1 / 0]) :=
    made_over [0, 1] rfl (by decide +kernel) (by decide +kernel) (by decide)
  obtain ⟨total, told⟩ := sum_told_unless_negative_bound [.int 2]
  have reads {given : Value} {first : Float} {rest : List Float}
      (made : Histogram.ofValues (.bool false) given =
        .ok (.empty (.bool false) (first :: rest)))
      (positive : Number.int 0 ≤ .float first) :
      ∃ contents, glance ⟨0, .histogram⟩ (afterTwo (first :: rest)) =
        .ok (.histogram contents) (afterTwo (first :: rest)) ∧ contents.sum = .float 2 := by
    obtain ⟨summed, _, _, contents, same, read, sum⟩ := told made (afterTwo_receives _)
    obtain ⟨rfl, rfl⟩ := List.cons.inj same
    obtain rfl : 2 = total := Except.ok.inj summed
    exact ⟨contents, read, sum.trans (by rw [if_pos positive])⟩
  refine ⟨standard, made, List.forall_mem_cons.mpr ⟨?_, List.forall_mem_singleton.mpr ?_⟩⟩
  · exact ⟨afterTwo_receives _, reads standard (by decide +kernel)⟩
  · exact ⟨afterTwo_receives _, reads made (by decide +kernel)⟩

/-- Over bounds from -1 on, the sum of a single 2 reads as zero. -/
theorem negative_bound_hides_sum :
    Histogram.ofValues (.bool false) (.list [.int (-1), .int 1]) =
        .ok (.empty (.bool false) [-1, 1, 1 / 0]) ∧
      Receives (.empty (.bool false) [-1, 1, 1 / 0]) ⟨0, .histogram⟩ [.int 2]
        (afterTwo [-1, 1, 1 / 0]) ∧
      Number.sum [.int 2] = .ok 2 ∧
      ∃ contents, glance ⟨0, .histogram⟩ (afterTwo [-1, 1, 1 / 0]) =
          .ok (.histogram contents) (afterTwo [-1, 1, 1 / 0]) ∧
        contents.sum = .float 0 ∧ (0 : Float) ≠ 2 := by
  have received := afterTwo_receives [-1, 1, 1 / 0]
  obtain ⟨unmarked, total, -, here⟩ := received.held
  refine ⟨made_over [-1, 1] rfl (by decide +kernel) (by decide +kernel) (by decide),
    received, rfl, _, glance_histogram unmarked here, ?_, by decide +kernel⟩
  rw [Histogram.sum_eq rfl rfl, if_neg (by decide +kernel)]

end Host

end StorageMetrics
