import StorageMetrics.Proofs.Host.Quiet

/-
  Registries by themselves on a target. A target is made with its first registry, and that attaches
  the counter of its failures beside itself. As long as nobody adds to the two, a scrape of the
  target shows the families of the registry and that of the counter, and is quiet (`Stands.scrape`).
-/

namespace StorageMetrics

open StorageMetrics.Action

/-- Nothing is attached but a registry and a series, in whichever order. -/
def Target.IsOf (t : Target) (id failures : Nat) : Prop :=
  ∃ exportName, t.map (·.collector) = [.registry id exportName, .series failures] ∨
    t.map (·.collector) = [.series failures, .registry id exportName]

namespace Host

/-- The registry has a target for itself and the counter of its failures, and nobody meddled with
any of them. -/
structure Stands (id target failures : Nat) (h : Host) (r : Registry) : Prop where
  found : h.registries[id]? = some ⟨r, target, some failures⟩
  unmarked : h.marks = []
  tidy : h.strays = []
  attached : ∃ t, h.targets[target]? = some t ∧ t.IsOf id failures
  counts : ∃ s, h.series[failures]? = some s ∧
    s.CountsFailures (failureCounterName r.exportName)

/-- The same, whatever became of engines and statistics, and whatever the counter counted. -/
structure Undisturbed (id target failures : Nat) (h : Host) (r : Registry) : Prop where
  found : h.registries[id]? = some ⟨r, target, some failures⟩
  intact : h.Intact
  tidy : h.strays = []
  attached : ∃ t, h.targets[target]? = some t ∧ t.IsOf id failures
  counts : ∃ s, h.series[failures]? = some s ∧ s.labelNames.length = 1

variable {h g : Host} {id target failures : Nat} {r : Registry}

/-! ## Gone through without strays -/

section Tidy

variable (tidy : h.strays = [])

include tidy

theorem strays?_tidy (kind : Store) (owner : Nat) : strays? kind owner h = .ok none h := by
  rw [strays?, bind_of_ok (get_run h), tidy]
  rfl

theorem straysOf_tidy (kind : Store) (owner : Nat) : straysOf kind owner h = .ok [] h := by
  rw [straysOf, bind_of_ok (strays?_tidy tidy kind owner)]
  rfl

theorem entriesAhead_tidy (kind : Store) (owner : Nat) (own : List α) :
    entriesAhead kind owner own h = .ok own h := by
  rw [entriesAhead, bind_of_ok (strays?_tidy tidy kind owner)]
  rfl

theorem requireCollectors_tidy (target : Nat) : requireCollectors target h = .ok () h := by
  rw [requireCollectors, bind_of_ok (straysOf_tidy tidy _ _)]
  rfl

variable (intact : h.Intact)

include intact

theorem requireChildren_tidy (id : Nat) : requireChildren id h = .ok () h := by
  have own (name : String) : h.mark? (.series id) name = none := intact.mark? rfl name
  rw [requireChildren, bind_of_ok (Item.requireUnmarked_run (own _)),
    bind_of_ok (requireDescription_run own), bind_of_ok (Item.requireUnmarked_run (own _)),
    bind_of_ok (requireOwn_run _ (own _)), bind_of_ok (straysOf_tidy tidy _ _)]
  rfl

theorem scrapeSeries_tidy {s : LabelledSeries} (found : h.series[id]? = some s) :
    scrapeCollector (.series id) h = .ok [s.family] h := by
  have known : getSeries id h = .ok s h := look_run found
  rw [scrapeCollector, bind_of_ok (requireChildren_tidy tidy intact id), bind_of_ok known]
  rfl

theorem collectorsOf_tidy {t : Target} (found : h.targets[target]? = some t) :
    collectorsOf target h = .ok t h := by
  have own (name : String) : h.mark? (.target target) name = none := intact.mark? rfl name
  have known : getTarget target h = .ok t h := look_run found
  rw [collectorsOf, bind_of_ok (Item.requireAllUnmarked_run fun name _ => own name),
    bind_of_ok (Item.markedValue?_run (own _))]
  dsimp only
  rw [bind_of_ok known]
  exact entriesAhead_tidy tidy _ _ _

end Tidy

theorem targetFamilies_intact (intact : h.Intact) (target : Nat) :
    targetFamilies target h = .ok [] h := by
  rw [targetFamilies, bind_of_ok (Item.markedValue?_run (intact.mark? rfl _))]
  rfl

/-- Where all collectors are gone through, their families are all that there is to a scrape. -/
theorem scrape_run {t : Target} (intact : h.Intact) (tidy : h.strays = [])
    (found : h.targets[target]? = some t) {all : List Family} (ran : scrapeAll t h = .ok all g)
    (intact' : g.Intact) (tidy' : g.strays = []) : Host.scrape target h = .ok all g := by
  rw [Host.scrape, bind_of_ok (collectorsOf_tidy tidy intact found), bind_of_ok ran,
    bind_of_ok (requireCollectors_tidy tidy' target),
    bind_of_ok (targetFamilies_intact intact' target)]
  rfl

/-- A collector that fails ends the scrape. -/
theorem scrape_of_failed {t : Target} (intact : h.Intact) (tidy : h.strays = [])
    (found : h.targets[target]? = some t) {e : Fault} (failed : scrapeAll t h = .error e g) :
    Host.scrape target h = .error e g := by
  rw [Host.scrape, bind_of_ok (collectorsOf_tidy tidy intact found)]
  exact bind_of_error failed _

/-- Two collectors are gone through one after the other. -/
theorem scrapeAll_pair {t : Target} {first second : Collector} {families more : List Family}
    {k : Host} (order : t.map (·.collector) = [first, second])
    (ran : scrapeCollector first h = .ok families g)
    (ranSecond : scrapeCollector second g = .ok more k) :
    scrapeAll t h = .ok (families ++ more) k := by
  obtain ⟨a, rest, rfl, rfl, others⟩ := List.map_eq_cons_iff.mp order
  obtain ⟨b, none_left, rfl, rfl, nothing⟩ := List.map_eq_cons_iff.mp others
  obtain rfl := List.map_eq_nil_iff.mp nothing
  rw [scrapeAll, bind_of_ok ran, scrapeAll, bind_assoc, bind_of_ok ranSecond]
  show EStateM.Result.ok (families ++ (more ++ [])) k = _
  rw [List.append_nil]

/-- Where the first of two collectors fails, or the second after the first, the scrape does. -/
theorem scrapeAll_pair_of_failed {t : Target} {first second : Collector} {e : Fault}
    (order : t.map (·.collector) = [first, second])
    (failed : scrapeCollector first h = .error e g ∨
      ∃ families k, scrapeCollector first h = .ok families k ∧
        scrapeCollector second k = .error e g) :
    scrapeAll t h = .error e g := by
  obtain ⟨a, rest, rfl, rfl, others⟩ := List.map_eq_cons_iff.mp order
  obtain ⟨b, none_left, rfl, rfl, nothing⟩ := List.map_eq_cons_iff.mp others
  rw [scrapeAll]
  obtain failed | ⟨families, k, ran, failed⟩ := failed
  · exact bind_of_error failed _
  · rw [bind_of_ok ran, scrapeAll, bind_assoc]
    exact bind_of_error failed _

namespace Undisturbed

theorem holds (before : h.Undisturbed id target failures r) : h.Holds id r :=
  before.intact.holds before.tidy before.found

/-- Once its families are scraped, the registry's target shows them and those of the counter, as it
was when its turn came. -/
theorem scrape (before : h.Undisturbed id target failures r) {families : List Family}
    (ran : scrapeRegistry id h = .ok families g) (after : g.Undisturbed id target failures r) :
    ∃ (s : LabelledSeries) (all : List Family), Host.scrape target h = .ok all g ∧
      (g.series[failures]? = some s ∧ all = families ++ [s.family] ∨
        h.series[failures]? = some s ∧ all = s.family :: families) := by
  obtain ⟨t, found, exportName, order⟩ := before.attached
  have whole {all : List Family} (gone : scrapeAll t h = .ok all g) :
      Host.scrape target h = .ok all g :=
    scrape_run before.intact before.tidy found gone after.intact after.tidy
  rcases order with order | order
  · obtain ⟨s, there, -⟩ := after.counts
    have counter := scrapeSeries_tidy after.tidy after.intact there
    exact ⟨s, _, whole (scrapeAll_pair order ran counter), Or.inl ⟨there, rfl⟩⟩
  · obtain ⟨s, there, -⟩ := before.counts
    have counter := scrapeSeries_tidy before.tidy before.intact there
    exact ⟨s, _, whole (scrapeAll_pair order counter ran), Or.inr ⟨there, rfl⟩⟩

/-- Where its families are not scraped to the end, the target is not. -/
theorem scrape_failed (before : h.Undisturbed id target failures r) {e : Fault}
    (failed : scrapeRegistry id h = .error e g) : Host.scrape target h = .error e g := by
  obtain ⟨t, found, exportName, order⟩ := before.attached
  refine scrape_of_failed before.intact before.tidy found ?_
  rcases order with order | order
  · exact scrapeAll_pair_of_failed order (Or.inl failed)
  · obtain ⟨s, there, -⟩ := before.counts
    have counter := scrapeSeries_tidy before.tidy before.intact there
    exact scrapeAll_pair_of_failed order (Or.inr ⟨_, _, counter, failed⟩)

end Undisturbed

namespace Stands

theorem undisturbed (stands : h.Stands id target failures r) :
    h.Undisturbed id target failures r where
  found := stands.found
  intact := intact_of_unmarked stands.unmarked
  tidy := stands.tidy
  attached := stands.attached
  counts := by
    obtain ⟨s, found, counts⟩ := stands.counts
    exact ⟨s, found, by rw [counts.labelNames_eq]; rfl⟩

theorem holds (stands : h.Stands id target failures r) : h.Holds id r := stands.undisturbed.holds

theorem quiet (stands : h.Stands id target failures r) (quiet : Quiet h g) :
    g.Stands id target failures r where
  found := by rw [quiet.registries_eq, stands.found]
  unmarked := quiet.marks_eq.trans stands.unmarked
  tidy := quiet.strays_eq.trans stands.tidy
  attached := by rw [quiet.targets_eq]; exact stands.attached
  counts := by
    obtain ⟨s, found, counts⟩ := stands.counts
    exact quiet.failures failures s _ found counts

/-- The counter that the target shows counts failures. -/
theorem scrape (stands : h.Stands id target failures r) {families : List Family}
    (ran : scrapeRegistry id h = .ok families g) (quiet : Quiet h g) :
    ∃ (s : LabelledSeries) (all : List Family), s.CountsFailures (failureCounterName r.exportName) ∧
      Host.scrape target h = .ok all g ∧
      (all = families ++ [s.family] ∨ all = s.family :: families) := by
  have after := stands.quiet quiet
  have counts {k : Host} (stands : k.Stands id target failures r) {s : LabelledSeries}
      (there : k.series[failures]? = some s) :
      s.CountsFailures (failureCounterName r.exportName) := by
    obtain ⟨t, found, counts⟩ := stands.counts
    obtain rfl : t = s := Option.some.inj (found.symm.trans there)
    exact counts
  obtain ⟨s, all, gone, ⟨there, shown⟩ | ⟨there, shown⟩⟩ :=
    stands.undisturbed.scrape ran after.undisturbed
  · exact ⟨s, all, counts after there, gone, Or.inl shown⟩
  · exact ⟨s, all, counts stands there, gone, Or.inr shown⟩

end Stands

end Host

end StorageMetrics
