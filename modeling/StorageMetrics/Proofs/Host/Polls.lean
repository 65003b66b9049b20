import Mathlib.Logic.Function.Iterate
import StorageMetrics.Proofs.Host.Failures
import StorageMetrics.Proofs.Host.Standing

/-
  Polls, one after the other. A scrape of an undisturbed registry polls its members in order, each
  in the host that the polls before it left (`Host.pollsOf`). Polls change nothing of what they go
  through but the counts of failures, and these grow by one with every poll that fails under the
  label (`Host.Tallied`). That holds of single polls and of scrapes, however they end
  (`Undisturbed.poll_tallied`, `Undisturbed.scrape_tallied`).
-/

namespace StorageMetrics

open StorageMetrics.Action

/-- An instrument that is asked for its value, and the host that it is asked in. -/
structure Poll where
  handle : Handle
  host : Host

/-- The poll counts as a failure on the counter, under the label. -/
def Poll.failsUnder (counter : Nat) (label : String) (p : Poll) : Bool :=
  Host.failsUnder counter label p.host p.handle

namespace Host

/-- What polls go through, without what they are answered by and without the counts. -/
def setting (h : Host) : Host :=
  { registries := h.registries
    instruments := h.instruments
    series := h.series.map LabelledSeries.emptied
    targets := h.targets
    strays := h.strays
    marks := h.marks.filter fun m => !m.item.isAsked }

/-- The polls of members, as far as a scrape of them comes. One without a table is not read. -/
def pollsOf (id : Nat) : List (MetricName × Handle) → FamilyTable → Host → List Poll
  | [], _, _ => []
  | (name, hd) :: rest, t, h =>
    match scrapeMember id t name hd h with
    | .ok t h' => (if name.table?.isSome then [⟨hd, h⟩] else []) ++ pollsOf id rest t h'
    | .error _ _ => []

/-- The polls of a scrape of the registry. -/
def scrapePolls (id : Nat) (h : Host) : List Poll :=
  match h.registries[id]? with
  | some a => pollsOf id a.registry.bindings.entries {} h
  | none => []

/-- From the one host to the other these polls were made. Nothing else happened to the counts of
this counter, and nothing at all to what polls go through. -/
structure Tallied (counter : Nat) (h : Host) (polls : List Poll) (g : Host) : Prop where
  setting_eq : g.setting = h.setting
  settings : ∀ p ∈ polls, p.host.setting = h.setting
  count_eq : ∀ label, g.failureCount counter label =
    (· + 1)^[polls.countP (·.failsUnder counter label)] (h.failureCount counter label)

variable {h g k : Host} {id target failures : Nat} {r : Registry}

/-! ## The setting of polls -/

theorem setting_of_reads (same : g.leftByReads = h.leftByReads) : g.setting = h.setting := by
  have whole (k : Host) : k.setting =
      { registries := k.leftByReads.registries
        instruments := k.leftByReads.instruments
        series := k.leftByReads.series
        targets := k.leftByReads.targets
        strays := k.leftByReads.strays
        marks := k.leftByReads.marks.filter fun m => !m.item.isAsked } := by
    have marks : (k.marks.filter fun m => m.item.asStatistics.isNone).filter
        (fun m => !m.item.isAsked) = k.marks.filter fun m => !m.item.isAsked := by
      rw [List.filter_filter]
      congr 1
      funext m
      cases m.item <;> rfl
    unfold setting
    rw [← marks]
    rfl
  rw [whole g, whole h, same]

theorem instruments_of_setting (same : g.setting = h.setting) : g.instruments = h.instruments :=
  congrArg (·.instruments) same

theorem registries_of_setting (same : g.setting = h.setting) : g.registries = h.registries :=
  congrArg (·.registries) same

/-- A counter goes on having the labels that it had. -/
theorem series_of_setting (same : g.setting = h.setting) {counter : Nat} {s : LabelledSeries}
    (found : h.series[counter]? = some s) :
    ∃ s', g.series[counter]? = some s' ∧ s'.emptied = s.emptied := by
  have emptied : (g.series.map LabelledSeries.emptied)[counter]? =
      (h.series.map LabelledSeries.emptied)[counter]? := congrArg (·.series[counter]?) same
  rw [Array.getElem?_map, Array.getElem?_map, found] at emptied
  exact Option.map_eq_some_iff.mp emptied

namespace Undisturbed

variable (before : h.Undisturbed id target failures r)

include before

theorem congr (same : g.setting = h.setting) : g.Undisturbed id target failures r where
  found := by
    rw [registries_of_setting same]
    exact before.found
  intact m mem := by
    by_contra own
    have shown : m ∈ g.setting.marks := List.mem_filter.mpr ⟨mem, by simpa using own⟩
    rw [same] at shown
    exact own (before.intact m (List.mem_filter.mp shown).1)
  tidy := (congrArg (·.strays) same).trans before.tidy
  attached := by
    rw [show g.targets = h.targets from congrArg (·.targets) same]
    exact before.attached
  counts := by
    obtain ⟨s, found, one⟩ := before.counts
    obtain ⟨s', found', emptied⟩ := series_of_setting same found
    exact ⟨s', found', (congrArg (·.labelNames.length) emptied).trans one⟩

theorem canCount : h.CanCount failures := ⟨before.counts, before.intact⟩

end Undisturbed

/-! ## Tallies -/

namespace Tallied

variable {counter : Nat} {polls more : List Poll}

theorem refl (h : Host) : Tallied counter h [] h :=
  ⟨rfl, List.forall_mem_nil _, fun _ => rfl⟩

theorem trans (first : Tallied counter h polls g) (rest : Tallied counter g more k) :
    Tallied counter h (polls ++ more) k where
  setting_eq := rest.setting_eq.trans first.setting_eq
  settings := List.forall_mem_append.mpr
    ⟨first.settings, fun p mem => (rest.settings p mem).trans first.setting_eq⟩
  count_eq label := by
    rw [rest.count_eq, first.count_eq, List.countP_append, Nat.add_comm,
      Function.iterate_add_apply]

/-- Where nothing is counted, there was no poll to speak of. -/
theorem of_series_eq (setting : g.setting = h.setting) (series : g.series = h.series) :
    Tallied counter h [] g :=
  ⟨setting, List.forall_mem_nil _, fun label => failureCount_congr (by rw [series]) label⟩

/-- One poll that counts as it should. -/
theorem single {hd : Handle} (setting : g.setting = h.setting)
    (counted : ∀ label, g.failureCount counter label =
      if failsUnder counter label h hd then h.failureCount counter label + 1
      else h.failureCount counter label) : Tallied counter h [⟨hd, h⟩] g where
  setting_eq := setting
  settings p mem := by
    rw [List.mem_singleton.mp mem]
  count_eq label := by
    rw [counted, List.countP_singleton, Poll.failsUnder]
    cases failsUnder counter label h hd <;> rfl

end Tallied

namespace Undisturbed

variable (before : h.Undisturbed id target failures r)

include before

theorem poll_tallied (hd : Handle) : Tallied failures h [⟨hd, h⟩] ((pollGauge hd).after h) :=
  .single (setting_of_reads (pollGauge_leaves hd h)) (failureCount_pollGauge before.canCount hd)

theorem read_tallied (hd : Handle) : Tallied failures h [⟨hd, h⟩] ((read hd).after h) :=
  .single (setting_of_reads (read_leaves hd h)) (failureCount_read before.canCount hd)

/-! ## Polls of a scrape -/

/-- Only a member that has a table is read. -/
theorem readMember_tallied (name : MetricName) (hd : Handle) :
    Tallied failures h (if name.table?.isSome then [⟨hd, h⟩] else [])
      ((readMember id name hd).after h) := by
  have own := Item.requireUnmarked_run (before.holds.mark?_registry "_add_sample")
  rw [readMember, after_bind_of_ok own]
  cases name.table? with
  | none => exact .refl h
  | some table =>
    have told : (do return (table, ← read hd) : Action (String × Reading)).after h =
        (read hd).after h := after_bind_of_leaves (fun _ => .pure _) h
    dsimp only
    rw [told]
    exact before.read_tallied hd

/-- A member that has no family to go to ends the scrape; any other is read and, where that fails,
reported. -/
theorem scrapeMember_cases (t : FamilyTable) (name : MetricName) (hd : Handle) :
    (∃ e, scrapeMember id t name hd h = .error e h) ∨
      ∃ u journal, scrapeMember id t name hd h =
        .ok u { (readMember id name hd).after h with journal := journal } := by
  rw [before.holds.scrapeMember_eq]
  cases t.ensure (r.family name.name) hd.kind.series name.name with
  | error e => exact Or.inl ⟨e, rfl⟩
  | ok u =>
    refine Or.inr ?_
    have made : Action.ofExcept (.ok u) h = .ok u h := rfl
    rw [bind_of_ok made]
    cases wasRead : readMember id name hd h with
    | error e k =>
      rw [bind_of_ok (outcome_of_error wasRead), after_of_error wasRead]
      exact ⟨_, _, rfl⟩
    | ok told k =>
      rw [bind_of_ok (outcome_of_ok wasRead), after_of_ok wasRead]
      dsimp only
      cases told.2.fault? with
      | some e => exact ⟨_, _, rfl⟩
      | none => exact ⟨_, k.journal, rfl⟩

theorem scrapeMember_tallied {t u : FamilyTable} {name : MetricName} {hd : Handle}
    (ran : scrapeMember id t name hd h = .ok u g) :
    Tallied failures h (if name.table?.isSome then [⟨hd, h⟩] else []) g := by
  have read := before.readMember_tallied name hd
  obtain ⟨e, failed⟩ | ⟨u', journal, told⟩ := before.scrapeMember_cases t name hd
  · rw [failed] at ran
    cases ran
  · rw [told] at ran
    cases ran
    exact ⟨read.setting_eq, read.settings, read.count_eq⟩

end Undisturbed

/-- However far a scrape of members comes, its polls are all that is counted. -/
theorem scrapeMembers_tallied (before : h.Undisturbed id target failures r)
    (entries : List (MetricName × Handle)) (t : FamilyTable) :
    Tallied failures h (pollsOf id entries t h) ((scrapeMembers id entries t).after h) := by
  induction entries generalizing h t with
  | nil => exact .refl h
  | cons b rest ih =>
    obtain ⟨name, hd⟩ := b
    rw [pollsOf, scrapeMembers]
    cases ran : scrapeMember id t name hd h with
    | error e g =>
      obtain ⟨e', failed⟩ | ⟨u, journal, told⟩ := before.scrapeMember_cases t name hd
      · rw [after_of_error (bind_of_error failed _)]
        exact .refl h
      · rw [told] at ran
        cases ran
    | ok u g =>
      have first := before.scrapeMember_tallied ran
      rw [after_bind_of_ok ran]
      exact first.trans (ih (before.congr first.setting_eq) u)

/-- Where all members are gone through, all of those with a table are polled. -/
theorem handles_pollsOf {entries : List (MetricName × Handle)} {t u : FamilyTable}
    (ran : scrapeMembers id entries t h = .ok u g) :
    (pollsOf id entries t h).map (·.handle) =
      (entries.filter (·.1.table?.isSome)).map (·.2) := by
  induction entries generalizing h t with
  | nil => rfl
  | cons b rest ih =>
    obtain ⟨name, hd⟩ := b
    obtain ⟨t', h', wasRead, ranRest⟩ := ok_of_bind ran
    have others := ih ranRest
    rw [pollsOf, wasRead]
    dsimp only
    rw [List.map_append, others, List.filter_cons]
    cases name.table?.isSome <;> rfl

/-- A scrape of members that comes to no end fails the scrape of the target. -/
theorem Undisturbed.scrape_of_failed_members (before : h.Undisturbed id target failures r)
    {e : Fault} (failed : scrapeMembers id r.bindings.entries {} h = .error e g) :
    Host.scrape target h = .error e g :=
  before.scrape_failed
    (before.holds.scrapeRegistry_of_failed (before.intact.same_eq_false rfl) failed)

/-- A scrape of the target is one of the members of the registry, and ends where that does. -/
theorem Undisturbed.after_scrape (before : h.Undisturbed id target failures r) :
    (Host.scrape target).after h = (scrapeMembers id r.bindings.entries {}).after h := by
  have tallied := scrapeMembers_tallied before r.bindings.entries {}
  cases ran : scrapeMembers id r.bindings.entries {} h with
  | error e g => rw [after_of_error ran, after_of_error (before.scrape_of_failed_members ran)]
  | ok t g =>
    rw [after_of_ok ran] at tallied ⊢
    have after := before.congr tallied.setting_eq
    have whole := before.holds.scrapeRegistry_of_members (before.intact.same_eq_false rfl)
      after.holds ran
    obtain ⟨s, all, gone, -⟩ := before.scrape whole after
    exact after_of_ok gone

/-- A scrape counts what fails of its polls, and changes nothing that polls go through. -/
theorem Undisturbed.scrape_tallied (before : h.Undisturbed id target failures r) :
    Tallied failures h (scrapePolls id h) ((Host.scrape target).after h) := by
  rw [before.after_scrape, scrapePolls, before.found]
  exact scrapeMembers_tallied before _ _

/-- A scrape that comes to its end polls every bound instrument whose name has a table. -/
theorem Undisturbed.handles_scrapePolls (before : h.Undisturbed id target failures r)
    {families : List Family} (ran : Host.scrape target h = .ok families g) :
    (scrapePolls id h).map (·.handle) =
      (r.bindings.entries.filter (·.1.table?.isSome)).map (·.2) := by
  rw [scrapePolls, before.found]
  cases members : scrapeMembers id r.bindings.entries {} h with
  | ok t k => exact handles_pollsOf members
  | error e k =>
    rw [before.scrape_of_failed_members members] at ran
    cases ran

end Host

end StorageMetrics
