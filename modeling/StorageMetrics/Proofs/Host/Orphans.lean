import StorageMetrics.Proofs.Host.Attaching
import StorageMetrics.Proofs.Host.RegistryCalls

/-
  Collectors that nobody owns. A registry that was never given out stays empty, but its collector can
  be attached to a target. It has no families, and looking for them changes nothing. So two hosts of
  which one has such a registry more are scraped alike, now and ever after (`Onward.scrape_alike`).
-/

namespace StorageMetrics

open StorageMetrics.Action

/-- A collector on a target between those before it and those behind it, whose registry stayed
empty. -/
structure Orphan where
  target : Nat
  registry : Nat
  exportName : Value
  ahead : Target
  behind : Target

namespace Orphan

variable (o : Orphan)

def attachment : Attachment := ⟨.registry o.registry o.exportName, []⟩

def left : AttachedRegistry :=
  { registry := { exportName := o.exportName }, target := o.target }

/-- The target without it. -/
def others : Target := o.ahead ++ o.behind

/-- The target with it. -/
def all : Target := o.ahead ++ o.attachment :: o.behind

end Orphan

/-- Of registries only those below this number are attached. -/
def Target.Below (t : Target) (count : Nat) : Prop :=
  ∀ a ∈ t, ∀ id exportName, a.collector = .registry id exportName → id < count

namespace Host

/-- The second host has the orphan, and has else what the first one has. -/
structure Beside (o : Orphan) (h g : Host) : Prop where
  unmarked : h.marks = []
  tidy : h.strays = []
  found : h.targets[o.target]? = some o.others
  size_eq : h.registries.size = o.registry
  below : o.others.Below o.registry
  same : g = { h with
    registries := h.registries.push o.left
    targets := h.targets.setIfInBounds o.target o.all
    journal := g.journal
    kept := g.kept }

variable {o : Orphan} {h g : Host}

namespace Beside

theorem unmarked' (beside : Beside o h g) : g.marks = [] := by
  rw [beside.same]
  exact beside.unmarked

theorem tidy' (beside : Beside o h g) : g.strays = [] := by
  rw [beside.same]
  exact beside.tidy

theorem found' (beside : Beside o h g) : g.targets[o.target]? = some o.all := by
  rw [beside.same]
  exact Array.getElem?_setIfInBounds_self_of_lt (Array.getElem?_eq_some_iff.mp beside.found).1

/-- Registries that are attached are the same in both. -/
theorem registries_eq (beside : Beside o h g) {id : Nat} (known : id < o.registry) :
    g.registries[id]? = h.registries[id]? := by
  rw [beside.same]
  rw [← beside.size_eq] at known
  exact (Array.getElem?_push_lt known).trans (Array.getElem?_eq_getElem known).symm

/-- A registry that both have is the same in both. -/
theorem holds (beside : Beside o h g) {id : Nat} (known : id < o.registry) :
    ∃ r, h.Holds id r ∧ g.Holds id r := by
  have inside : id < h.registries.size := beside.size_eq ▸ known
  have found : h.registries[id]? = some h.registries[id] := Array.getElem?_eq_getElem inside
  exact ⟨h.registries[id].registry,
    (intact_of_unmarked beside.unmarked).holds beside.tidy found,
    (intact_of_unmarked beside.unmarked').holds beside.tidy'
      ((beside.registries_eq known).trans found)⟩

theorem series_eq (beside : Beside o h g) : g.series = h.series := by rw [beside.same]

theorem statistics_eq (beside : Beside o h g) : g.statistics = h.statistics := by rw [beside.same]

/-- What else changes may change, if it changes alike in both. -/
theorem moved (beside : Beside o h g) {h' g' : Host} (marks : h'.marks = h.marks)
    (strays : h'.strays = h.strays) (targets : h'.targets = h.targets)
    (size : h'.registries.size = h.registries.size)
    (same : g' = { h' with
      registries := h'.registries.push o.left
      targets := h'.targets.setIfInBounds o.target o.all
      journal := g'.journal
      kept := g'.kept }) : Beside o h' g' where
  unmarked := marks.trans beside.unmarked
  tidy := strays.trans beside.tidy
  found := by rw [targets, beside.found]
  size_eq := size.trans beside.size_eq
  below := beside.below
  same := same

end Beside

theorem beside_blurs (o : Orphan) : Blurs (Beside o) where
  unmarked beside := beside.unmarked
  sources_eq beside := by rw [beside.same]; rfl
  size_eq beside := by rw [beside.same]
  notes _ _ _ _ beside := beside.moved rfl rfl rfl rfl (by rw [beside.same])
  trackers _ beside := beside.moved rfl rfl rfl rfl (by rw [beside.same])
  failures beside _ _ := beside.moved rfl rfl rfl rfl (by rw [beside.same])
  asked _ _ beside := beside.moved rfl rfl rfl rfl (by rw [beside.same]; rfl)

/-! ## Steps of a scrape -/

/-- What goes through wherever nobody meddled with anything, and changes nothing, is passed over. -/
theorem Beside.skip {check : Action α} {a : α}
    (ran : ∀ h : Host, h.marks = [] → h.strays = [] → check h = .ok a h) {f : α → Action β}
    (rest : Respects (Beside o) (f a)) : Respects (Beside o) (check >>= f) := by
  intro h g beside
  rw [bind_of_ok (ran h beside.unmarked beside.tidy), bind_of_ok (ran g beside.unmarked' beside.tidy')]
  exact rest h g beside

/-- Reports may differ. -/
theorem report_alike (e e' : JournalEntry) (beside : Beside o h g) :
    EndAlike (Beside o) (Action.report e h) (Action.report e' g) :=
  ⟨rfl, (beside_blurs o).notes _ _ h.kept g.kept beside⟩

/-- A member that fails is left out in both, whatever it was that failed. -/
theorem respects_scrapeMember {id : Nat} (known : id < o.registry) (t : FamilyTable)
    (name : MetricName) (hd : Handle) : Respects (Beside o) (scrapeMember id t name hd) := by
  intro h g beside
  obtain ⟨r, holds, holds'⟩ := beside.holds known
  rw [holds.scrapeMember_eq, holds'.scrapeMember_eq]
  refine (EndAlike.ofExcept beside _).bind fun t h g beside => ?_
  have alike := (beside_blurs o).readMember_alike beside id name hd fun k _ _ => by
    rw [beside.statistics_eq]
  cases ran : readMember id name hd h with
  | ok told h' =>
    cases ran' : readMember id name hd g with
    | error e g' => rw [ran, ran'] at alike; exact alike.elim
    | ok told' g' =>
      rw [ran, ran'] at alike
      obtain ⟨rfl, beside⟩ := alike
      rw [bind_of_ok (outcome_of_ok ran), bind_of_ok (outcome_of_ok ran')]
      dsimp only
      cases told.2.fault? with
      | some e => exact (report_alike _ _ beside).bind fun _ _ _ beside => ⟨rfl, beside⟩
      | none => exact ⟨rfl, beside⟩
  | error e h' =>
    cases ran' : readMember id name hd g with
    | ok told g' => rw [ran, ran'] at alike; exact alike.elim
    | error e' g' =>
      rw [ran, ran'] at alike
      rw [bind_of_ok (outcome_of_error ran), bind_of_ok (outcome_of_error ran')]
      exact (report_alike _ _ alike).bind fun _ _ _ beside => ⟨rfl, beside⟩

theorem respects_scrapeMembers {id : Nat} (known : id < o.registry)
    (entries : List (MetricName × Handle)) (t : FamilyTable) :
    Respects (Beside o) (scrapeMembers id entries t) := by
  induction entries generalizing t with
  | nil => exact .pure t
  | cons b rest ih => exact .bind (respects_scrapeMember known t b.1 b.2) fun u => ih u

theorem requireFamilies_unmarked (unmarked : h.marks = []) (id : Nat) :
    requireFamilies id h = .ok () h := by
  rw [requireFamilies, bind_of_ok (requireUnmarked_unmarked unmarked _ _),
    bind_of_ok (requireOwn_unmarked unmarked _ _ _),
    bind_of_ok (requireUnmarked_unmarked unmarked _ _), requireBindings,
    bind_of_ok (requireAllUnmarked_unmarked unmarked _ _)]
  exact requireOwn_unmarked unmarked _ _ _

theorem requireNames_tidy (tidy : h.strays = []) (id : Nat) : requireNames id h = .ok () h := by
  rw [requireNames, bind_of_ok (straysOf_tidy tidy _ _)]
  rfl

theorem respects_scrapeRegistry {id : Nat} (known : id < o.registry) :
    Respects (Beside o) (scrapeRegistry id) := by
  unfold scrapeRegistry
  refine Beside.skip (fun _ unmarked _ => requireFamilies_unmarked unmarked id) ?_
  refine .bind (.look fun h g beside => beside.registries_eq known) fun a => ?_
  refine Beside.skip (fun _ _ tidy => entriesAhead_tidy tidy _ _ _) ?_
  refine .bind (respects_scrapeMembers known _ _) fun t => ?_
  exact Beside.skip (fun _ _ tidy => requireNames_tidy tidy id) (.pure _)

theorem respects_scrapeCollector {a : Attachment}
    (known : ∀ id exportName, a.collector = .registry id exportName → id < o.registry) :
    Respects (Beside o) (scrapeCollector a.collector) := by
  cases same : a.collector with
  | registry id exportName => exact respects_scrapeRegistry (known id exportName same)
  | series id =>
    refine Beside.skip (fun _ unmarked tidy =>
      requireChildren_tidy tidy (intact_of_unmarked unmarked) id) ?_
    exact .bind (.look fun h g beside => by rw [beside.series_eq]) fun s => .pure _

theorem respects_scrapeAll {t : Target} (below : t.Below o.registry) :
    Respects (Beside o) (scrapeAll t) := by
  induction t with
  | nil => exact .pure []
  | cons a rest ih =>
    have others : Target.Below rest o.registry := fun b mem => below b (List.mem_cons_of_mem _ mem)
    exact .bind (respects_scrapeCollector (below a List.mem_cons_self)) fun _ =>
      .bind (ih others) fun _ => .pure _

/-! ## The orphan -/

/-- The orphan has no families, and nothing changes when it is asked for them. -/
theorem Beside.scrape_orphan (beside : Beside o h g) :
    scrapeCollector o.attachment.collector g = .ok [] g := by
  have found : g.registries[o.registry]? = some o.left := by
    rw [beside.same, ← beside.size_eq]
    exact Array.getElem?_push_size
  have holds : g.Holds o.registry { exportName := o.exportName } :=
    (intact_of_unmarked beside.unmarked').holds beside.tidy' found
  have unmarked : ∀ m ∈ g.marks, m.item.same (.collector o.registry) = false := by
    rw [beside.unmarked']
    exact List.forall_mem_nil _
  exact holds.scrapeRegistry_of_members unmarked holds rfl

/-- The other collectors are gone through as if it was not there. -/
theorem scrapeAll_alike {ahead : Target} (below : Target.Below (ahead ++ o.behind) o.registry)
    (beside : Beside o h g) :
    EndAlike (Beside o) (scrapeAll (ahead ++ o.behind) h)
      (scrapeAll (ahead ++ o.attachment :: o.behind) g) := by
  induction ahead generalizing h g with
  | nil =>
    rw [List.nil_append, List.nil_append, scrapeAll, bind_of_ok beside.scrape_orphan]
    have same : (do return [] ++ (← scrapeAll o.behind) : Action (List Family)) =
        scrapeAll o.behind := bind_pure _
    rw [same]
    exact respects_scrapeAll below h g beside
  | cons a rest ih =>
    have others : Target.Below (rest ++ o.behind) o.registry :=
      fun b mem => below b (List.mem_cons_of_mem _ mem)
    rw [List.cons_append, List.cons_append, scrapeAll, scrapeAll]
    refine (respects_scrapeCollector (below a List.mem_cons_self) h g beside).bind
      fun families h g beside => ?_
    exact (ih others beside).bind fun _ _ _ beside => ⟨rfl, beside⟩

/-! ## Scrapes -/

/-- A scrape of its target ends alike with the orphan and without it. -/
theorem Beside.scrape_alike (beside : Beside o h g) :
    EndAlike (Beside o) (scrape o.target h) (scrape o.target g) := by
  have intact {h : Host} (unmarked : h.marks = []) := intact_of_unmarked unmarked
  unfold scrape
  rw [bind_of_ok (collectorsOf_tidy beside.tidy (intact beside.unmarked) beside.found),
    bind_of_ok (collectorsOf_tidy beside.tidy' (intact beside.unmarked') beside.found')]
  refine (scrapeAll_alike beside.below beside).bind fun families h g beside => ?_
  have ending : Respects (Beside o) (do
      requireCollectors o.target
      return (← targetFamilies o.target) ++ families) :=
    Beside.skip (fun _ _ tidy => requireCollectors_tidy tidy _)
      (Beside.skip (fun _ unmarked _ => targetFamilies_intact (intact unmarked) _) (.pure _))
  exact ending h g beside

/-! ## What else goes on -/

/-- The host with the clock, the sources, the instruments and the series of another one. -/
def withSourcesOf (h other : Host) : Host :=
  { h with
    clock := other.clock
    cells := other.cells
    statistics := other.statistics
    engines := other.engines
    trackers := other.trackers
    instruments := other.instruments
    series := other.series }

namespace Beside

theorem withSourcesOf (beside : Beside o h g) (other : Host) :
    Beside o (h.withSourcesOf other) (g.withSourcesOf other) :=
  beside.moved rfl rfl rfl rfl (by rw [beside.same]; rfl)

theorem withInstrument (beside : Beside o h g) (i : Instrument) :
    Beside o (h.withInstrument i) (g.withInstrument i) :=
  beside.moved rfl rfl rfl rfl (by rw [beside.same]; rfl)

/-- A registry that both have gets the same contents in both. -/
theorem rebind (beside : Beside o h g) {id : Nat} (known : id < o.registry) (r : Registry)
    (reports : Journal) : Beside o (h.rebind id r reports) (g.rebind id r reports) := by
  refine beside.moved rfl rfl rfl (Array.size_modify ..) ?_
  have pushed (f : AttachedRegistry → AttachedRegistry) :
      (h.registries.push o.left).modify id f = (h.registries.modify id f).push o.left := by
    refine Array.ext_getElem? fun i => ?_
    rw [Array.getElem?_modify, Array.getElem?_push, Array.getElem?_push, Array.getElem?_modify,
      Array.size_modify]
    rw [← beside.size_eq] at known
    by_cases last : i = h.registries.size
    · rw [if_pos last, if_pos last, if_neg (by omega)]
    · rw [if_neg last, if_neg last]
  rw [beside.same]
  unfold Host.rebind
  dsimp only
  rw [pushed]

/-- A decision that is settled in both leads to the same contents. -/
theorem settled {id : Nat} (known : id < o.registry) {t : Action Handle} {name : MetricName}
    {decided : Except RegistrationError Registration} {h₁ g₁ : Host} (beside : Beside o h₁ g₁)
    (ran : t h = Host.settled id name decided h₁) (ran' : t g = Host.settled id name decided g₁) :
    Beside o (t.after h) (t.after g) := by
  cases decided with
  | error e => rwa [after_of_error ran, after_of_error ran']
  | ok reg =>
    rw [after_of_ok ran, after_of_ok ran']
    exact beside.rebind known _ _

theorem after_remove {id : Nat} {r : Registry} (holds : h.Holds id r) (name : MetricName) :
    (remove id name).after h = h.rebind id (r.remove name).1 [] := by
  rw [after, remove_eq holds]
  cases (r.remove name).2 <;> rfl

/-- Calls on a registry that both have do the same in both. -/
theorem called (beside : Beside o h g) {id : Nat} (known : id < o.registry) (call : RegistryCall) :
    Beside o ((call.run id).after h) ((call.run id).after g) := by
  obtain ⟨r, holds, holds'⟩ := beside.holds known
  have instruments : g.instruments = h.instruments :=
    (beside_blurs o).instruments_eq beside
  cases call with
  | register name offer =>
    show Beside o ((do let _ ← register id name offer : Action Unit).after h)
      ((do let _ ← register id name offer : Action Unit).after g)
    rw [after_discard, after_discard]
    exact settled known beside (register_run holds name offer) (register_run holds' name offer)
  | counter name =>
    have ran := counter_run holds' name
    rw [instruments] at ran
    show Beside o ((do let _ ← counter id name : Action Unit).after h)
      ((do let _ ← counter id name : Action Unit).after g)
    rw [after_discard, after_discard]
    exact settled known (beside.withInstrument _) (counter_run holds name) ran
  | histogram name biased =>
    have ran := histogram_run holds' name biased
    rw [instruments] at ran
    show Beside o ((do let _ ← histogram id name biased : Action Unit).after h)
      ((do let _ ← histogram id name biased : Action Unit).after g)
    rw [after_discard, after_discard]
    exact settled known (beside.withInstrument _) (histogram_run holds name biased) ran
  | remove name =>
    show Beside o ((do let _ ← remove id name : Action Unit).after h)
      ((do let _ ← remove id name : Action Unit).after g)
    rw [after_discard, after_discard, after_remove holds, after_remove holds']
    exact beside.rebind known _ _

end Beside

/-- The same went on in both hosts: scrapes of the target, calls on registries of a number below this
one, and whatever became of the clock, the sources, the instruments and the series. -/
inductive Onward (target count : Nat) (h g : Host) : Host → Host → Prop where
  | start : Onward target count h g h g
  | scraped {k l : Host} (before : Onward target count h g k l) :
    Onward target count h g ((scrape target).after k) ((scrape target).after l)
  | called {k l : Host} (before : Onward target count h g k l) {id : Nat} (known : id < count)
      (call : RegistryCall) :
    Onward target count h g ((call.run id).after k) ((call.run id).after l)
  | changed {k l : Host} (before : Onward target count h g k l) (other : Host) :
    Onward target count h g (k.withSourcesOf other) (l.withSourcesOf other)

theorem Onward.beside {k l : Host} (onward : Onward o.target o.registry h g k l)
    (start : Beside o h g) : Beside o k l := by
  induction onward with
  | start => exact start
  | scraped _ ih => exact ih.scrape_alike.after
  | called _ known call ih => exact ih.called known call
  | changed _ other ih => exact ih.withSourcesOf other

/-- Whatever goes on in both, they are scraped alike. -/
theorem Onward.scrape_alike {k l : Host} (onward : Onward o.target o.registry h g k l)
    (start : Beside o h g) : SameAnswer ((scrape o.target).answer k) ((scrape o.target).answer l) :=
  (onward.beside start).scrape_alike.answer

end Host

end StorageMetrics
