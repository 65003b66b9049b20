import StorageMetrics.Proofs.Host.Alike

/-
  What reads leave as it is. Polls and scrapes drop old transfers, count failures and questions, and
  report; everything else of the host stays, the contents of the statistics among it, and a counter
  of failures goes on counting failures (`Host.Quiet`). So all members of one scrape are read from
  hosts that differ in nothing else (`Host.readMembers_quiet`).
-/

namespace StorageMetrics

open StorageMetrics.Action

/-- A counter of failed evaluations, with one value for each gauge that failed. -/
structure LabelledSeries.CountsFailures (name : String) (s : LabelledSeries) : Prop where
  name_eq : s.name = name
  isCounter : s.isCounter = true
  labelNames_eq : s.labelNames = ["gauge"]
  keys_eq : ∃ gauges : List String, gauges.Nodup ∧ s.children.keys = gauges.map ([·])

namespace LabelledSeries

theorem countsFailures_failures (name : String) : (failures name).CountsFailures name :=
  ⟨rfl, rfl, rfl, [], List.nodup_nil, rfl⟩

theorem CountsFailures.increment {name gauge : String} {s s' : LabelledSeries}
    (counts : s.CountsFailures name) (counted : s.increment gauge = .ok s') :
    s'.CountsFailures name := by
  obtain ⟨gauges, nodup, keys⟩ := counts.keys_eq
  have one : s.labelNames.length = 1 := by rw [counts.labelNames_eq]; rfl
  rw [LabelledSeries.increment, if_pos one] at counted
  cases counted
  refine ⟨counts.name_eq, counts.isCounter, counts.labelNames_eq, ?_⟩
  by_cases known : gauge ∈ gauges
  · have mem : [gauge] ∈ s.children.keys := by
      rw [keys]
      exact List.mem_map_of_mem known
    exact ⟨gauges, nodup, (OrderedMap.keys_insert_of_mem mem).trans keys⟩
  · have absent : [gauge] ∉ s.children.keys := by
      rw [keys]
      intro mem
      obtain ⟨other, among, same⟩ := List.mem_map.mp mem
      cases same
      exact known among
    refine ⟨gauges ++ [gauge], ?_, ?_⟩
    · exact List.nodup_append.mpr ⟨nodup, List.nodup_singleton gauge, fun a mem b mem' same => by
        rw [List.mem_singleton.mp mem'] at same
        exact known (same ▸ mem)⟩
    · rw [OrderedMap.keys_insert_of_not_mem absent, keys, List.map_append]
      rfl

end LabelledSeries

/-- Statistics as they were before any question. -/
def Statistics.uncounted (s : Statistics) : Statistics :=
  { s with histogramReads := 0, tickerReads := 0 }

namespace Host

/-- The host without what reads change. -/
def besidesReads (h : Host) : Host :=
  { h with
    trackers := #[]
    journal := []
    kept := #[]
    series := #[]
    statistics := h.statistics.map Statistics.uncounted }

/-- From the one host to the other there was nothing but reads. -/
structure Quiet (h g : Host) : Prop where
  besidesReads_eq : g.besidesReads = h.besidesReads
  failures : ∀ (id : Nat) (s : LabelledSeries) (name : String), h.series[id]? = some s →
    s.CountsFailures name → ∃ s', g.series[id]? = some s' ∧ s'.CountsFailures name

variable {h g k : Host}

namespace Quiet

theorem refl (h : Host) : Quiet h h := ⟨rfl, fun _ s _ found counts => ⟨s, found, counts⟩⟩

theorem trans (first : Quiet h g) (rest : Quiet g k) : Quiet h k where
  besidesReads_eq := rest.besidesReads_eq.trans first.besidesReads_eq
  failures id s name found counts := by
    obtain ⟨s', found', counts'⟩ := first.failures id s name found counts
    exact rest.failures id s' name found' counts'

theorem marks_eq (quiet : Quiet h g) : g.marks = h.marks := congrArg (·.marks) quiet.besidesReads_eq

theorem strays_eq (quiet : Quiet h g) : g.strays = h.strays :=
  congrArg (·.strays) quiet.besidesReads_eq

theorem registries_eq (quiet : Quiet h g) : g.registries = h.registries :=
  congrArg (·.registries) quiet.besidesReads_eq

theorem targets_eq (quiet : Quiet h g) : g.targets = h.targets :=
  congrArg (·.targets) quiet.besidesReads_eq

theorem instruments_eq (quiet : Quiet h g) : g.instruments = h.instruments :=
  congrArg (·.instruments) quiet.besidesReads_eq

/-- Statistics report what they reported. -/
theorem tell_eq (quiet : Quiet h g) {id : Nat} {s : Statistics} (found : h.statistics[id]? = some s) :
    ∃ s', g.statistics[id]? = some s' ∧ ∀ source, s'.tell source = s.tell source := by
  have same : g.statistics.map Statistics.uncounted = h.statistics.map Statistics.uncounted :=
    congrArg (·.statistics) quiet.besidesReads_eq
  have here := congrArg (·[id]?) same
  simp only [Array.getElem?_map, found, Option.map_some] at here
  obtain ⟨s', found', uncounted⟩ := Option.map_eq_some_iff.mp here
  refine ⟨s', found', fun source => ?_⟩
  have contents (s : Statistics) : s.tell source = s.uncounted.tell source := by cases source <;> rfl
  rw [contents s', contents s, uncounted]

end Quiet

/-! ## Reads are quiet -/

theorem besidesReads_asked (h : Host) (id : Nat) (q : StatQuery) :
    (h.asked id q).besidesReads = h.besidesReads := by
  have uncounted (s : Statistics) : (q.count s).uncounted = s.uncounted := by cases q <;> rfl
  have same : (h.asked id q).statistics.map Statistics.uncounted =
      h.statistics.map Statistics.uncounted := by
    refine Array.ext_getElem? fun i => ?_
    rw [asked, Array.getElem?_map, Array.getElem?_map, Array.getElem?_modify]
    split
    · cases h.statistics[i]? with
      | none => rfl
      | some s => exact congrArg some (uncounted s)
    · rfl
  unfold besidesReads
  rw [same]
  rfl

/-- Two hosts that came from one by nothing but reads, and differ in reports at most. -/
structure Mirrors (start h g : Host) : Prop where
  unmarked : h.marks = []
  same : g = { h with journal := g.journal, kept := g.kept }
  quiet : Quiet start h

theorem mirrors_blurs (start : Host) : Blurs (Mirrors start) where
  unmarked mirrors := mirrors.unmarked
  sources_eq mirrors := by rw [mirrors.same]; rfl
  size_eq mirrors := by rw [mirrors.same]
  notes j j' l l' mirrors := by
    refine ⟨mirrors.unmarked, ?_, ⟨mirrors.quiet.besidesReads_eq, mirrors.quiet.failures⟩⟩
    rw [mirrors.same]
  trackers t mirrors := by
    refine ⟨mirrors.unmarked, ?_, ⟨mirrors.quiet.besidesReads_eq, mirrors.quiet.failures⟩⟩
    rw [mirrors.same]
  failures {h g id s s' gauge} mirrors found counted := by
    refine ⟨mirrors.unmarked, ?_, ⟨mirrors.quiet.besidesReads_eq, fun i t name there counts => ?_⟩⟩
    · rw [mirrors.same]
    · obtain ⟨t', found', counts'⟩ := mirrors.quiet.failures i t name there counts
      by_cases here : id = i
      · subst here
        cases found.symm.trans found'
        refine ⟨s', ?_, counts'.increment counted⟩
        simp [(Array.getElem?_eq_some_iff.mp found).1]
      · refine ⟨t', ?_, counts'⟩
        simp [here, found']
  asked id q mirrors := by
    refine ⟨mirrors.unmarked, ?_, ⟨?_, mirrors.quiet.failures⟩⟩
    · rw [mirrors.same]
      rfl
    · rw [besidesReads_asked, mirrors.quiet.besidesReads_eq]

theorem mirrors_refl (unmarked : h.marks = []) : Mirrors h h h := ⟨unmarked, rfl, .refl h⟩

/-- Polling a gauge is quiet. -/
theorem pollGauge_quiet (unmarked : h.marks = []) (hd : Handle) :
    Quiet h ((pollGauge hd).after h) :=
  ((mirrors_blurs h).pollGauge hd h h (mirrors_refl unmarked)).after.quiet

/-- All members are read from hosts that come from the first one by nothing but reads. -/
theorem readMembers_quiet (unmarked : h.marks = []) (id : Nat)
    (entries : List (MetricName × Handle)) :
    ∃ ms h', readMembers id entries h = .ok ms h' ∧ Quiet h h' ∧ ms.map Member.binding = entries ∧
      ∀ m ∈ ms, ∃ g, Quiet h g ∧
        m.outcome = ((readMember id m.name m.handle).answer g).map (·.2) := by
  induction entries generalizing h with
  | nil => exact ⟨[], h, rfl, .refl h, rfl, List.forall_mem_nil _⟩
  | cons b rest ih =>
    obtain ⟨name, hd⟩ := b
    obtain ⟨m, journal, ran, binding, outcome⟩ := readReported_run id name hd h
    obtain ⟨rfl, rfl⟩ := Prod.mk.inj binding
    have read := ((mirrors_blurs h).readMember_after (mirrors_refl unmarked) id m.name m.handle).quiet
    have told : Quiet h { (readMember id m.name m.handle).after h with journal := journal } :=
      ⟨read.besidesReads_eq, read.failures⟩
    obtain ⟨ms, h', ranRest, quiet, bindings, outcomes⟩ := ih (told.marks_eq.trans unmarked)
    refine ⟨m :: ms, h', ?_, told.trans quiet, ?_, ?_⟩
    · rw [readMembers, bind_of_ok ran, bind_of_ok ranRest]
      rfl
    · rw [List.map_cons, bindings]
      rfl
    · refine List.forall_mem_cons.mpr ⟨⟨h, .refl h, outcome⟩, fun n mem => ?_⟩
      obtain ⟨g, later, outcome⟩ := outcomes n mem
      exact ⟨g, told.trans later, outcome⟩

end Host

end StorageMetrics
