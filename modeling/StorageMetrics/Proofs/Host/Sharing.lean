import Mathlib.Data.List.Perm.Basic
import StorageMetrics.Proofs.Host.Succession

/-
  Targets that several registries share. At every point of a target's history there is one registry
  on it for each export name in use, the latest of its name, and the registries of a name share the
  counter of failures, which the next one leaves as it is. A scrape shows the families of just these
  registries and counters (`registries_succeed`). Only a counter without a family name can end it,
  for which the export name has to be empty.
-/

namespace StorageMetrics

open StorageMetrics.Action Target

namespace Host

variable {h g h' : Host} {target : Nat} {made : List (String × Nat)} {seats : List Seat}

/-! ## Collectors one after the other -/

/-- Collectors that are all gone through quietly give their families in order. -/
theorem scrapeAll_quiet {start : Host} {shows : Attachment → List Family → Prop} {t : Target}
    (each : ∀ a ∈ t, ∀ g, Quiet start g → ∃ part g', scrapeCollector a.collector g = .ok part g' ∧
      Quiet g g' ∧ shows a part) (quiet : Quiet start h) :
    ∃ parts h', scrapeAll t h = .ok parts.flatten h' ∧ Quiet start h' ∧
      List.Forall₂ shows t parts := by
  induction t generalizing h with
  | nil => exact ⟨[], h, rfl, quiet, .nil⟩
  | cons a rest ih =>
    obtain ⟨part, g, ran, more, shown⟩ := each a List.mem_cons_self h quiet
    obtain ⟨parts, h', ranRest, quiet', shownRest⟩ :=
      ih (fun b mem => each b (List.mem_cons_of_mem _ mem)) (quiet.trans more)
    refine ⟨part :: parts, h', ?_, quiet', .cons shown shownRest⟩
    rw [scrapeAll, bind_of_ok ran, bind_of_ok ranRest]
    rfl

/-- The first collector that fails ends it. -/
theorem scrapeAll_fails {start : Host} {fails : Attachment → Prop} {e : Fault} {t : Target}
    (each : ∀ a ∈ t, ∀ g, Quiet start g →
      (fails a ∧ ∃ g', scrapeCollector a.collector g = .error e g') ∨
        (¬ fails a ∧ ∃ part g', scrapeCollector a.collector g = .ok part g' ∧ Quiet g g'))
    (failing : ∃ a ∈ t, fails a) (quiet : Quiet start h) : ∃ h', scrapeAll t h = .error e h' := by
  induction t generalizing h with
  | nil =>
    obtain ⟨a, mem, -⟩ := failing
    cases mem
  | cons a rest ih =>
    obtain ⟨-, g, failed⟩ | ⟨goes, part, g, ran, more⟩ := each a List.mem_cons_self h quiet
    · exact ⟨g, by rw [scrapeAll, bind_of_error failed]⟩
    · have left : ∃ a ∈ rest, fails a := by
        obtain ⟨b, mem, without⟩ := failing
        obtain rfl | mem := List.mem_cons.mp mem
        · exact absurd without goes
        · exact ⟨b, mem, without⟩
      obtain ⟨h', failed⟩ :=
        ih (fun b mem => each b (List.mem_cons_of_mem _ mem)) left (quiet.trans more)
      refine ⟨h', ?_⟩
      rw [scrapeAll, bind_of_ok ran]
      exact bind_of_error failed _

/-! ## What a seat shows -/

/-- These are the families of the registry under this number after some reads: what its members
assemble to, as they are read then. -/
def ShowsRegistry (h : Host) (id : Nat) (families : List Family) : Prop :=
  ∃ g g' r ms t, Quiet h g ∧ scrapeRegistry id g = .ok families g' ∧ h.Holds id r ∧
    readMembers id r.bindings.entries g = .ok ms g' ∧ ms.map Member.binding = r.bindings.entries ∧
    r.Exposes ms t ∧ families = t.values

/-- This is the family of the counter of failures under this number after some reads. -/
def ShowsCounter (h : Host) (id : Nat) (name : String) (f : Family) : Prop :=
  ∃ g s, Quiet h g ∧ g.series[id]? = some s ∧ s.CountsFailures name ∧ f = s.family

/-- The registry under this number binds a counter whose family would be left without a name. -/
def IsNameless (h : Host) (id : Nat) : Prop :=
  ∃ r b, h.Holds id r ∧ b ∈ r.bindings.entries ∧ r.Nameless b.1 b.2

/-- What a collector shows after some reads. -/
def ShowsPart (h : Host) (a : Attachment) (part : List Family) : Prop :=
  match a.collector with
  | .registry id _ => ShowsRegistry h id part
  | .series id => ∃ f, part = [f] ∧ ∀ s name, h.series[id]? = some s → s.CountsFailures name →
      ShowsCounter h id name f

theorem Holds.registry_eq {id : Nat} {r s : Registry} (holds : h.Holds id r)
    (other : h.Holds id s) : r = s := Option.some.inj (holds.held.symm.trans other.held)

namespace Joined

variable {failures : Nat} {name : String} {id : Nat} {r : Registry}

theorem quiet (joined : Joined target failures name id h r) (quiet : Quiet h g) :
    Joined target failures name id g r :=
  joined.congr (by rw [quiet.registries_eq])
    fun k i found => ⟨i, by rw [quiet.instruments_eq, found], rfl⟩

theorem scrape_nameless (joined : Joined target failures name id h r) (unmarked : h.marks = [])
    (tidy : h.strays = []) (nameless : ∃ b ∈ r.bindings.entries, r.Nameless b.1 b.2) :
    ∃ h', scrapeRegistry id h = .error .emptyFamilyName h' := by
  have presents := joined.presents unmarked tidy
  have exact := joined.reachable.exact
  obtain ⟨h', failed⟩ := scrapeMembers_nameless presents exact (fun b mem => exact.get?_of_mem mem)
    nameless Registry.assembled_nil (List.forall_mem_nil _) (List.forall_mem_nil _)
  exact ⟨h', scrapeRegistry_of_failed presents failed⟩

theorem scrape_named (joined : Joined target failures name id h r) (unmarked : h.marks = [])
    (tidy : h.strays = []) (named : ∀ b ∈ r.bindings.entries, ¬ r.Nameless b.1 b.2) :
    ∃ ms t h', scrapeRegistry id h = .ok t.values h' ∧ Quiet h h' ∧
      readMembers id r.bindings.entries h = .ok ms h' ∧
      ms.map Member.binding = r.bindings.entries ∧ r.Exposes ms t := by
  have presents := joined.presents unmarked tidy
  have exact := joined.reachable.exact
  obtain ⟨ms, h', t, wereRead, same, fits, assembled, -, presents', scraped⟩ :=
    scrapeMembers_run presents (fun b mem => exact.get?_of_mem mem) named Registry.assembled_nil
  obtain ⟨u, alsoAssembled, exposes⟩ := Registry.assemble_exposes (exact.agree same)
    (fun m mem => named m.binding (same ▸ List.mem_map_of_mem mem)) fits
  obtain rfl := Except.ok.inj (assembled.symm.trans alsoAssembled)
  obtain ⟨ms', k, wereRead', quiet, -⟩ := readMembers_quiet unmarked id r.bindings.entries
  obtain ⟨rfl, rfl⟩ := EStateM.Result.ok.inj (wereRead.symm.trans wereRead')
  exact ⟨ms, t, h', scrapeRegistry_of_members presents presents' scraped, quiet, wereRead, same,
    exposes⟩

/-- After some reads a registry is scraped quietly, unless it has a counter without a family
name. -/
theorem scrape (joined : Joined target failures name id h r) (unmarked : h.marks = [])
    (tidy : h.strays = []) (reads : Quiet h g) :
    (h.IsNameless id ∧ name = "" ∧ ∃ g', scrapeRegistry id g = .error .emptyFamilyName g') ∨
      (¬ h.IsNameless id ∧ ∃ families g', scrapeRegistry id g = .ok families g' ∧ Quiet g g' ∧
        ShowsRegistry h id families) := by
  have holds := joined.holds unmarked tidy
  have later := joined.quiet reads
  have unmarked' := reads.marks_eq.trans unmarked
  have tidy' := reads.strays_eq.trans tidy
  by_cases nameless : ∃ b ∈ r.bindings.entries, r.Nameless b.1 b.2
  · have ⟨b, among, without⟩ := nameless
    have empty := without.exportName
    rw [joined.exportName_eq] at empty
    exact Or.inl ⟨⟨r, b, holds, among, without⟩, empty,
      later.scrape_nameless unmarked' tidy' nameless⟩
  · have named : ∀ b ∈ r.bindings.entries, ¬ r.Nameless b.1 b.2 :=
      fun b among without => nameless ⟨b, among, without⟩
    have named' : ¬ h.IsNameless id := by
      rintro ⟨s, b, other, among, without⟩
      obtain rfl := holds.registry_eq other
      exact nameless ⟨b, among, without⟩
    obtain ⟨ms, t, g', ran, more, wereRead, same, exposes⟩ :=
      later.scrape_named unmarked' tidy' named
    exact Or.inr ⟨named', t.values, g', ran, more, g, g', r, ms, t, reads, ran, holds, wereRead,
      same, exposes, rfl⟩

end Joined

/-- The parts of the seats, two for each. -/
theorem shown_of_parts {parts : List (List Family)}
    (counts : ∀ p ∈ seats, ∃ s, h.series[p.failures]? = some s ∧
      s.CountsFailures (failureCounterName (.str p.exportName)))
    (parts_shown : List.Forall₂ h.ShowsPart (seats.flatMap Seat.attachments) parts) :
    ∃ shown : List (List Family × Family), parts.flatten = shown.flatMap (fun s => s.1 ++ [s.2]) ∧
      List.Forall₂ (fun p s => ShowsRegistry h p.registry s.1 ∧
        ShowsCounter h p.failures (failureCounterName (.str p.exportName)) s.2) seats shown := by
  induction seats generalizing parts with
  | nil =>
    cases parts_shown
    exact ⟨[], rfl, .nil⟩
  | cons p rest ih =>
    rw [List.flatMap_cons] at parts_shown
    obtain _ | ⟨own, others⟩ := parts_shown
    obtain _ | ⟨counter, others⟩ := others
    obtain ⟨f, rfl, ofCounter⟩ := counter
    obtain ⟨s, found, counts'⟩ := counts p List.mem_cons_self
    obtain ⟨shown, flat, inOrder⟩ := ih (fun q mem => counts q (List.mem_cons_of_mem _ mem)) others
    refine ⟨(_, f) :: shown, ?_, .cons ⟨own, ofCounter s _ found counts'⟩ inOrder⟩
    rw [List.flatten_cons, List.flatten_cons, flat, List.flatMap_cons, List.append_assoc]

namespace Succession

variable (succession : Succession target made seats h)

include succession

theorem intact : h.Intact := intact_of_unmarked succession.unmarked

/-- The counter of a seat is scraped quietly. -/
theorem scrape_counter {p : Seat} (mem : p ∈ seats) (quiet : Quiet h g) :
    ∃ part, scrapeCollector p.counter.collector g = .ok part g ∧ h.ShowsPart p.counter part := by
  obtain ⟨s, found, counts⟩ := succession.counts p mem
  obtain ⟨s', there, -⟩ := quiet.failures _ s _ found counts
  have ran := scrapeSeries_tidy (quiet.strays_eq.trans succession.tidy)
    (intact_of_unmarked (quiet.marks_eq.trans succession.unmarked)) there
  refine ⟨[s'.family], ran, s'.family, rfl, fun t name known counts => ?_⟩
  obtain ⟨t', there', counts'⟩ := quiet.failures _ t name known counts
  obtain rfl : t' = s' := Option.some.inj (there'.symm.trans there)
  exact ⟨g, t', quiet, there, counts', rfl⟩

/-- The registry of a seat is scraped quietly, unless it has a counter without a family name. -/
theorem scrape_holder {p : Seat} (mem : p ∈ seats) (quiet : Quiet h g) :
    (h.IsNameless p.registry ∧ p.exportName = "" ∧
      ∃ g', scrapeCollector p.holder.collector g = .error .emptyFamilyName g') ∨
    (¬ h.IsNameless p.registry ∧ ∃ part g', scrapeCollector p.holder.collector g = .ok part g' ∧
      Quiet g g' ∧ h.ShowsPart p.holder part) := by
  obtain ⟨r, joined⟩ := succession.joined_at mem (succession.mem_made mem)
  exact joined.scrape succession.unmarked succession.tidy quiet

/-- Only the empty export name leaves a family without a name. -/
theorem exportName_of_nameless {p : Seat} (mem : p ∈ seats) (nameless : h.IsNameless p.registry) :
    p.exportName = "" := by
  obtain ⟨-, empty, -⟩ | ⟨named, -⟩ := succession.scrape_holder mem (.refl h)
  · exact empty
  · exact absurd nameless named

/-- A counter without a family name ends the scrape. -/
theorem scrape_nameless {p : Seat} (mem : p ∈ seats) (nameless : h.IsNameless p.registry) :
    ∃ h', scrape target h = .error .emptyFamilyName h' := by
  obtain ⟨t, found, consists⟩ := succession.attached
  let fails (a : Attachment) : Prop :=
    ∃ id exportName, a.collector = .registry id exportName ∧ h.IsNameless id
  have failing : ∃ a ∈ t, fails a :=
    ⟨p.holder, consists.mem_iff.mpr ⟨p, mem, Or.inl rfl⟩, _, _, rfl, nameless⟩
  have each : ∀ a ∈ t, ∀ g, Quiet h g →
      (fails a ∧ ∃ g', scrapeCollector a.collector g = .error .emptyFamilyName g') ∨
        (¬ fails a ∧ ∃ part g', scrapeCollector a.collector g = .ok part g' ∧ Quiet g g') := by
    intro a among g quiet
    obtain ⟨q, there, rfl | rfl⟩ := consists.mem_iff.mp among
    · obtain ⟨without, -, failed⟩ | ⟨named, part, g', ran, more, -⟩ :=
        succession.scrape_holder there quiet
      · exact Or.inl ⟨⟨_, _, rfl, without⟩, failed⟩
      · refine Or.inr ⟨?_, part, g', ran, more⟩
        rintro ⟨id, exportName, same, without⟩
        cases same
        exact named without
    · obtain ⟨part, ran, -⟩ := succession.scrape_counter there quiet
      refine Or.inr ⟨?_, part, g, ran, .refl g⟩
      rintro ⟨id, exportName, same, -⟩
      cases same
  obtain ⟨h', failed⟩ := scrapeAll_fails each failing (.refl h)
  exact ⟨h', scrape_of_failed succession.intact succession.tidy found failed⟩

/-- Otherwise every seat shows the families of its registry and the one of its counter. -/
theorem scrape_shows (named : ∀ p ∈ seats, ¬ h.IsNameless p.registry) :
    ∃ families shown h', scrape target h = .ok families h' ∧
      families.Perm (shown.flatMap fun s => s.1 ++ [s.2]) ∧
      List.Forall₂ (fun (p : Seat) (s : List Family × Family) => ShowsRegistry h p.registry s.1 ∧
        ShowsCounter h p.failures (failureCounterName (.str p.exportName)) s.2) seats shown := by
  obtain ⟨t, found, consists⟩ := succession.attached
  have each : ∀ a ∈ t, ∀ g, Quiet h g → ∃ part g', scrapeCollector a.collector g = .ok part g' ∧
      Quiet g g' ∧ h.ShowsPart a part := by
    intro a among g quiet
    obtain ⟨q, there, rfl | rfl⟩ := consists.mem_iff.mp among
    · obtain ⟨without, -⟩ | ⟨-, shown⟩ := succession.scrape_holder there quiet
      · exact absurd without (named q there)
      · exact shown
    · obtain ⟨part, ran, shown⟩ := succession.scrape_counter there quiet
      exact ⟨part, g, ran, .refl g, shown⟩
  obtain ⟨parts, h', ran, quiet, inOrder⟩ := scrapeAll_quiet each (.refl h)
  -- The target lists the seats in its own order, and so are the parts of its scrape.
  obtain ⟨sorted, ofSeats, perm⟩ := List.perm_comp_forall₂ consists.perm.symm inOrder
  obtain ⟨shown, flat, perSeat⟩ := shown_of_parts succession.counts ofSeats
  refine ⟨parts.flatten, shown, h', ?_, flat ▸ perm.symm.flatten, perSeat⟩
  exact scrape_run succession.intact succession.tidy found ran
    (intact_of_unmarked (quiet.marks_eq.trans succession.unmarked))
    (quiet.strays_eq.trans succession.tidy)

end Succession

/-! ## Whole histories -/

/-- What a target is that has seen these registries: one collector for each export name in use, that
of its latest registry, and one counter of failures, which all registries of the name share and
which outlives them. -/
structure SharedBy (target : Nat) (made : List (String × Nat)) (h : Host) (t : Target)
    (seats : List Seat) : Prop where
  found : h.targets[target]? = some t
  consists : t.ConsistsOf seats
  mem_names_iff : ∀ name, name ∈ seats.map (·.exportName) ↔ name ∈ made.map (·.1)
  latest : ∀ p ∈ seats, made.lookup p.exportName = some p.registry
  countOf_eq : ∀ p ∈ seats, t.countOf (.str p.exportName) = 1
  counts : ∀ p ∈ seats, ∃ s, h.series[p.failures]? = some s ∧
    s.CountsFailures (failureCounterName (.str p.exportName))
  failuresOf_eq : ∀ p ∈ seats, ∀ id, (p.exportName, id) ∈ made → failuresOf h id = some p.failures
  /-- The next registry of whatever name leaves all counters as they are, and goes on with the one
  of its name. -/
  outlives : ∀ name, ∃ id h', addRegistry (.str name) target h = .ok id h' ∧ ∀ p ∈ seats,
    h'.series[p.failures]? = h.series[p.failures]? ∧
      (p.exportName = name → failuresOf h' id = some p.failures)

theorem Joined.failuresOf_eq {failures : Nat} {name : String} {id : Nat} {r : Registry}
    (joined : Joined target failures name id h r) (unmarked : h.marks = []) :
    failuresOf h id = some failures := by
  rw [failuresOf, joined.found, mark?_of_marks_nil unmarked]

theorem Succession.sharedBy (succession : Succession target made seats h) :
    ∃ t, SharedBy target made h t seats := by
  obtain ⟨t, found, consists⟩ := succession.attached
  refine ⟨t, found, consists, fun _ => succession.mem_names_iff, succession.latest,
    fun p mem => consists.countOf_eq_one mem, succession.counts, fun p mem id among => ?_,
    fun name => ?_⟩
  · obtain ⟨r, joined⟩ := succession.joined_at mem among
    exact joined.failuresOf_eq succession.unmarked
  · obtain ⟨h', seats', counter, ran, more, -, same⟩ := succession.addRegistry_run name
    refine ⟨_, h', ran, fun p mem => ⟨?_, fun here => ?_⟩⟩
    · obtain ⟨s, there, -⟩ := succession.counts p mem
      rw [more.series _ s there, there]
    · rw [← same p mem here]
      exact more.joined_new.failuresOf_eq (more.unmarked.trans succession.unmarked)

/-- Whatever registries were made on a target, under names in any order, and whatever was written
to them in between, the target is shared by the latest registry of each name. A scrape shows for
each name the families of that registry and the counter of failures, and nothing else. Only a
registry of the empty name can end it instead, by a counter that leaves its family without a
name. -/
theorem registries_succeed (history : History target made h) :
    ∃ t seats, SharedBy target made h t seats ∧
      (∀ p ∈ seats, h.IsNameless p.registry →
        p.exportName = "" ∧ ∃ h', scrape target h = .error .emptyFamilyName h') ∧
      ((∀ p ∈ seats, ¬ h.IsNameless p.registry) →
        ∃ families shown h', scrape target h = .ok families h' ∧
          families.Perm (shown.flatMap fun s => s.1 ++ [s.2]) ∧
          List.Forall₂ (fun (p : Seat) (s : List Family × Family) =>
            ShowsRegistry h p.registry s.1 ∧
              ShowsCounter h p.failures (failureCounterName (.str p.exportName)) s.2)
            seats shown) := by
  obtain ⟨seats, succession⟩ := history.succession
  obtain ⟨t, shared⟩ := succession.sharedBy
  refine ⟨t, seats, shared, fun p mem nameless => ⟨?_, ?_⟩, succession.scrape_shows⟩
  · exact succession.exportName_of_nameless mem nameless
  · exact succession.scrape_nameless mem nameless

/-- The host with one more registry on a target. -/
def andRegistry (target : Nat) (name : String) (h : Host) : Host :=
  (addRegistry (.str name) target).after h

/-- A registry can be made at every point. -/
theorem History.andRegistry (history : History target made h) (name : String) :
    History target ((name, h.registries.size) :: made) (h.andRegistry target name) := by
  obtain ⟨seats, succession⟩ := history.succession
  obtain ⟨h', seats', counter, ran, -⟩ := succession.addRegistry_run name
  rw [Host.andRegistry, after_of_ok ran]
  exact history.made name ran

/-- A process with a target and nothing else. -/
def withTarget : Host := addTarget.after {}

theorem withTarget_history : History 0 [] withTarget := .start rfl rfl rfl

/-- Two names, the first of them used again after its registry was written to and a gauge was
asked. -/
def threeRegistries : Host :=
  let written := ((RegistryCall.counter (TableScope.all.name "DbSeek")).run 0).after
    (withTarget.andRegistry 0 "a")
  ((pollGauge ⟨0, .gauge⟩).after (written.andRegistry 0 "b")).andRegistry 0 "a"

theorem threeRegistries_history :
    History 0 [("a", 2), ("b", 1), ("a", 0)] threeRegistries := by
  have first : History 0 [("a", 0)] (withTarget.andRegistry 0 "a") :=
    withTarget_history.andRegistry "a"
  have written := first.called List.mem_cons_self (.counter (TableScope.all.name "DbSeek")) trivial
  have second := written.andRegistry "b"
  obtain ⟨seats, succession⟩ := second.succession
  have polled := second.elsewhere ((pollGauge_quiet succession.unmarked ⟨0, .gauge⟩).elsewhere
    succession.unmarked succession.tidy 0)
  exact polled.andRegistry "a"

theorem registries_succeed_threeRegistries :
    History 0 [("a", 2), ("b", 1), ("a", 0)] threeRegistries ∧
      ∃ t seats, SharedBy 0 [("a", 2), ("b", 1), ("a", 0)] threeRegistries t seats ∧
        ∃ families shown h', scrape 0 threeRegistries = .ok families h' ∧
          families.Perm (shown.flatMap fun s => s.1 ++ [s.2]) ∧
          List.Forall₂ (fun (p : Seat) (s : List Family × Family) =>
            ShowsRegistry threeRegistries p.registry s.1 ∧ ShowsCounter threeRegistries p.failures
              (failureCounterName (.str p.exportName)) s.2) seats shown := by
  obtain ⟨t, seats, shared, nameless, shows⟩ := registries_succeed threeRegistries_history
  refine ⟨threeRegistries_history, t, seats, shared, shows fun p mem without => ?_⟩
  have name := (shared.mem_names_iff p.exportName).mp (List.mem_map_of_mem mem)
  rw [(nameless p mem without).1] at name
  exact absurd name (by decide)

/-- The empty name and a counter labelled `Total`. -/
def emptyNamed : Host :=
  ((RegistryCall.counter (TableScope.all.name "Total")).run 0).after (withTarget.andRegistry 0 "")

/-- Whether a target can be scraped. -/
def isScraped (target : Nat) (h : Host) : Bool :=
  match scrape target h with
  | .ok _ _ => true
  | .error _ _ => false

/-- A registry of the empty name can keep its target from being scraped. -/
theorem scrape_of_emptyNamed :
    History 0 [("", 0)] emptyNamed ∧ ¬ ∃ families h', scrape 0 emptyNamed = .ok families h' := by
  have first : History 0 [("", 0)] (withTarget.andRegistry 0 "") :=
    withTarget_history.andRegistry ""
  refine ⟨first.called List.mem_cons_self _ trivial, ?_⟩
  rintro ⟨families, h', ran⟩
  have scraped : isScraped 0 emptyNamed = true := by rw [isScraped, ran]
  have refused : isScraped 0 emptyNamed = false := by decide +kernel
  rw [refused] at scraped
  cases scraped

end Host

end StorageMetrics
