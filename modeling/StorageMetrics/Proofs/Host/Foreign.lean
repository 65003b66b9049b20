import Mathlib.Data.List.Find
import StorageMetrics.Proofs.Host.Orphans
import StorageMetrics.Proofs.Host.Sharing

/-
  New registries on targets that others use, too. Whatever registries and series come to a target, it
  carries registries that claim nothing, and series that are there (`Crowded.carries`). A registry
  cannot be made on such a target where a name of its counter of failures is held by a collector of
  somebody else. By then it has taken the place of the earlier registries of its name, and its own
  collector is attached, which it stays (`refused_registry_stays_attached`). That one shows nothing, so
  from then on the target is scraped as if the earlier registries had only been detached.
-/

namespace StorageMetrics

open StorageMetrics.Action

/-! ## Claims on a target -/

namespace Target

variable {t : Target} {exportName : Value}

/-- Registries claim nothing, so it makes no difference to the claims when one takes the place of
others. -/
theorem claimed_replaced (nothing : ∀ a ∈ t, isOf exportName a = true → a.claims = [])
    (c : Collector) : claimed (t.supersede exportName ++ [⟨c, []⟩]) = t.claimed := by
  have kept : claimed (t.supersede exportName) = t.claimed := by
    induction t with
    | nil => rfl
    | cons a rest ih =>
      have others := ih fun b mem => nothing b (List.mem_cons_of_mem _ mem)
      have apart (u : Target) : claimed (a :: u) = a.claims ++ u.claimed := List.flatMap_cons
      rw [supersede, List.filter_cons, apart]
      split
      case isTrue =>
        rw [apart]
        exact congrArg (a.claims ++ ·) others
      case isFalse gone =>
        have none : a.claims = [] := nothing a List.mem_cons_self (by simpa using gone)
        rw [none]
        exact others
  rw [claimed, List.flatMap_append]
  exact (List.append_nil _).trans kept

theorem claimant?_replaced (nothing : ∀ a ∈ t, isOf exportName a = true → a.claims = [])
    (c : Collector) (name : String) :
    claimant? (t.supersede exportName ++ [⟨c, []⟩]) name = t.claimant? name := by
  have kept : (t.supersede exportName).find? (fun a => decide (name ∈ a.claims)) =
      t.find? fun a => decide (name ∈ a.claims) := by
    rw [supersede, List.find?_filter]
    refine List.find?_congr fun a mem => ?_
    cases named : isOf exportName a with
    | false => simp
    | true => simp [nothing a mem named]
  rw [claimant?, List.find?_append, kept, claimant?]
  cases t.find? fun a => decide (name ∈ a.claims) <;> rfl

/-- What is attached comes last. -/
theorem attach_eq {u : Target} {a : Attachment} (attached : t.attach a = .ok u) : u = t ++ [a] := by
  rw [attach] at attached
  split at attached
  · cases attached
  · exact (Except.ok.inj attached).symm

/-- The first claimant of a name has claimed it. -/
theorem mem_claimed_of_claimant? {name : String} {c : Collector}
    (claimant : t.claimant? name = some c) : name ∈ t.claimed := by
  obtain ⟨a, found, -⟩ := Option.map_eq_some_iff.mp claimant
  have claims : name ∈ a.claims := by simpa using List.find?_some found
  exact List.mem_flatMap.mpr ⟨a, List.mem_of_find?_eq_some found, claims⟩

end Target

namespace Host

variable {h g : Host} {target : Nat} {t : Target} {exportName : Value}

/-- A collector that can be on a target: a registry of the host, which claims nothing, or a series of
the host. -/
def Fits (h : Host) (a : Attachment) : Prop :=
  match a.collector with
  | .registry id _ => id < h.registries.size ∧ a.claims = []
  | .series id => id < h.series.size

/-- A target of a host that nobody meddled with carries these collectors, in any number and order. -/
structure Carries (h : Host) (target : Nat) (t : Target) : Prop where
  unmarked : h.marks = []
  tidy : h.strays = []
  found : h.targets[target]? = some t
  fits : ∀ a ∈ t, h.Fits a

/-- A name that a counter of failures would claim is held on the target, and not by a counter whose
first name it is. -/
def HeldByOthers (h : Host) (t : Target) (exportName : Value) : Prop :=
  (∃ claim ∈ (LabelledSeries.failures (failureCounterName exportName)).claims,
    claim ∈ t.claimed) ∧
  ∀ id s, t.claimant? (failureCounterName exportName) = some (.series id) →
    h.series[id]? = some s → s.isCounter = false

/-- Something went on that left the target alone, and in which no registry and no series was lost. -/
structure Aside (target : Nat) (h g : Host) : Prop where
  unmarked : g.marks = []
  tidy : g.strays = []
  target_eq : g.targets[target]? = h.targets[target]?
  registries : h.registries.size ≤ g.registries.size
  series : h.series.size ≤ g.series.size

namespace Fits

variable {a : Attachment}

theorem registry (fits : h.Fits a) {id : Nat} {other : Value}
    (collector : a.collector = .registry id other) : id < h.registries.size ∧ a.claims = [] := by
  rwa [Fits, collector] at fits

theorem series (fits : h.Fits a) {id : Nat} (collector : a.collector = .series id) :
    id < h.series.size := by
  rwa [Fits, collector] at fits

theorem mono (fits : h.Fits a) (registries : h.registries.size ≤ g.registries.size)
    (series : h.series.size ≤ g.series.size) : g.Fits a := by
  rw [Fits]
  cases collector : a.collector with
  | registry id other =>
    obtain ⟨inside, nothing⟩ := fits.registry collector
    exact ⟨Nat.lt_of_lt_of_le inside registries, nothing⟩
  | series id => exact Nat.lt_of_lt_of_le (fits.series collector) series

end Fits

namespace Carries

variable (carries : h.Carries target t)

include carries

theorem nothing : ∀ a ∈ t, Target.isOf exportName a = true → a.claims = [] := by
  intro a mem named
  cases collector : a.collector with
  | registry id other => exact ((carries.fits a mem).registry collector).2
  | series id =>
    rw [Target.isOf, collector] at named
    cases named

theorem below_supersede : (t.supersede exportName).Below h.registries.size :=
  fun a mem _ _ collector => ((carries.fits a (List.mem_of_mem_filter mem)).registry collector).1

/-- No registry is attached before it is there. -/
theorem not_mem_new (other : Value) : ⟨.registry h.registries.size other, []⟩ ∉ t :=
  fun mem => Nat.lt_irrefl _ ((carries.fits _ mem).registry rfl).1

theorem claimant_known {name : String} {id : Nat} (claimant : t.claimant? name = some (.series id)) :
    ∃ s, h.series[id]? = some s := by
  obtain ⟨a, found, collector⟩ := Option.map_eq_some_iff.mp claimant
  have inside := (carries.fits a (List.mem_of_find?_eq_some found)).series collector
  exact ⟨_, Array.getElem?_eq_getElem inside⟩

theorem aside (aside : Aside target h g) : g.Carries target t where
  unmarked := aside.unmarked
  tidy := aside.tidy
  found := aside.target_eq.trans carries.found
  fits a mem := (carries.fits a mem).mono aside.registries aside.series

/-- A new series is attached. -/
theorem withSeries (s : LabelledSeries) :
    Carries { h with
      targets := h.targets.setIfInBounds target (t ++ [⟨.series h.series.size, s.claims⟩])
      series := h.series.push s } target (t ++ [⟨.series h.series.size, s.claims⟩]) where
  unmarked := carries.unmarked
  tidy := carries.tidy
  found := Array.getElem?_setIfInBounds_self_of_lt (Array.getElem?_eq_some_iff.mp carries.found).1
  fits a mem := by
    have more : h.series.size < (h.series.push s).size := by
      rw [Array.size_push]
      exact Nat.lt_succ_self _
    obtain before | new := List.mem_append.mp mem
    · exact (carries.fits a before).mono (Nat.le_refl _) (Nat.le_of_lt more)
    · obtain rfl := List.mem_singleton.mp new
      exact more

/-- A new registry takes the place of those of its name. -/
theorem attaching (journal : Journal) :
    (h.attaching target t exportName journal).Carries target
      (t.supersede exportName ++ [⟨.registry h.registries.size exportName, []⟩]) where
  unmarked := carries.unmarked
  tidy := carries.tidy
  found := Array.getElem?_setIfInBounds_self_of_lt (Array.getElem?_eq_some_iff.mp carries.found).1
  fits a mem := by
    have more : h.registries.size < (h.attaching target t exportName journal).registries.size := by
      rw [Host.attaching, Array.size_push]
      exact Nat.lt_succ_self _
    obtain before | new := List.mem_append.mp mem
    · exact (carries.fits a (List.mem_of_mem_filter before)).mono (Nat.le_of_lt more) (Nat.le_refl _)
    · obtain rfl := List.mem_singleton.mp new
      exact ⟨more, rfl⟩

/-! ## Looking for a counter -/

/-- Where a name is held by others, there is no counter to be had. -/
theorem failureCounter_refused (held : HeldByOthers h t exportName) :
    failureCounter target exportName h =
      .error (.registration (.foreignCollector (failureCounterName exportName))) h := by
  obtain ⟨⟨claim, claims, claimed⟩, others⟩ := held
  let a : Attachment := ⟨.series h.series.size,
    (LabelledSeries.failures (failureCounterName exportName)).claims⟩
  have refused : attach target a h = .error .duplicateNames h :=
    attach_claimed carries.unmarked carries.tidy carries.found (a := a) claims claimed
  have target_ : getTarget target h = .ok t h := look_run carries.found
  have absent : stray? .claims target (.str (failureCounterName exportName)) h = .ok none h := by
    rw [stray?, bind_of_ok (straysOf_tidy carries.tidy _ _)]
    rfl
  rw [failureCounter, bind_of_ok (get_run h), bind_of_ok (outcome_of_error refused)]
  dsimp only
  rw [bind_of_ok (requireOwn_unmarked carries.unmarked _ _ _), bind_of_ok target_, bind_of_ok absent]
  cases claimant : t.claimant? (failureCounterName exportName) with
  | none => rfl
  | some c =>
    cases c with
    | registry id other => rfl
    | series id =>
      obtain ⟨s, there⟩ := carries.claimant_known claimant
      have gauge : s.isCounter = false := others id s claimant there
      have looked : getSeries id h = .ok s h := look_run there
      dsimp only
      rw [bind_of_ok looked, gauge]
      rfl

/-- Otherwise it is a new one, or the one that holds the name. -/
theorem failureCounter_had (free : ¬ HeldByOthers h t exportName) :
    ∃ failures g u, failureCounter target exportName h = .ok failures g ∧ g.Carries target u := by
  by_cases claimed : ∃ claim ∈ (LabelledSeries.failures (failureCounterName exportName)).claims,
      claim ∈ t.claimed
  · have counter : ∃ id s, t.claimant? (failureCounterName exportName) = some (.series id) ∧
        h.series[id]? = some s ∧ s.isCounter = true := by
      by_contra none
      refine free ⟨claimed, fun id s claimant there => ?_⟩
      exact Bool.eq_false_iff.mpr fun counter => none ⟨id, s, claimant, there, counter⟩
    obtain ⟨id, s, claimant, there, counter⟩ := counter
    obtain ⟨journal, ran⟩ := failureCounter_reused carries.unmarked carries.tidy carries.found
      claimant (Target.mem_claimed_of_claimant? claimant) there counter
    have reported : Aside target h { h with journal := journal } :=
      ⟨carries.unmarked, carries.tidy, rfl, Nat.le_refl _, Nat.le_refl _⟩
    exact ⟨id, _, t, ran, carries.aside reported⟩
  · have free : ∀ claim ∈ (LabelledSeries.failures (failureCounterName exportName)).claims,
        claim ∉ t.claimed := fun claim claims taken => claimed ⟨claim, claims, taken⟩
    exact ⟨_, _, _, failureCounter_tidy carries.unmarked carries.tidy carries.found free,
      carries.withSeries _⟩

/-! ## Making a registry -/

/-- What is held by others where a registry looks for its counter was held by others before. -/
theorem heldByOthers_attaching (journal : Journal) :
    HeldByOthers (h.attaching target t exportName journal)
      (t.supersede exportName ++ [⟨.registry h.registries.size exportName, []⟩]) exportName ↔
      HeldByOthers h t exportName := by
  unfold HeldByOthers
  rw [Target.claimant?_replaced carries.nothing, Target.claimed_replaced carries.nothing]
  rfl

theorem addRegistry_had (free : ¬ HeldByOthers h t exportName) :
    ∃ id h' u, addRegistry exportName target h = .ok id h' ∧ h'.Carries target u := by
  obtain ⟨journal, made⟩ := addRegistry_eq carries.unmarked carries.tidy carries.found exportName
  obtain ⟨failures, g, u, ran, carries'⟩ := (carries.attaching journal).failureCounter_had
    fun held => free ((carries.heldByOthers_attaching journal).mp held)
  let a : AttachedRegistry := ⟨{ exportName := exportName }, target, some failures⟩
  have noted : Aside target g
      { g with registries := g.registries.setIfInBounds h.registries.size a } :=
    ⟨carries'.unmarked, carries'.tidy, rfl, (Array.size_setIfInBounds ..).ge, Nat.le_refl _⟩
  rw [made, bind_of_ok ran]
  exact ⟨_, _, u, rfl, carries'.aside noted⟩

/-- A registry that is refused stays as it is while it looks for a counter. -/
theorem addRegistry_refused (held : HeldByOthers h t exportName) :
    ∃ journal, addRegistry exportName target h =
      .error (.registration (.foreignCollector (failureCounterName exportName)))
        (h.attaching target t exportName journal) := by
  obtain ⟨journal, made⟩ := addRegistry_eq carries.unmarked carries.tidy carries.found exportName
  have ran := (carries.attaching journal).failureCounter_refused
    ((carries.heldByOthers_attaching journal).mpr held)
  exact ⟨journal, made.trans (bind_of_error ran _)⟩

theorem after_addRegistry (exportName : Value) :
    ∃ u, ((addRegistry exportName target).after h).Carries target u := by
  by_cases held : HeldByOthers h t exportName
  · obtain ⟨journal, ran⟩ := carries.addRegistry_refused held
    rw [after_of_error ran]
    exact ⟨_, carries.attaching journal⟩
  · obtain ⟨id, h', u, ran, carries'⟩ := carries.addRegistry_had held
    rw [after_of_ok ran]
    exact ⟨u, carries'⟩

/-- Where nothing changes, the target carries what it did. -/
theorem after_refused {e : Fault} {x : Action α} (ran : x h = .error e h) :
    ∃ u, (x.after h).Carries target u := by
  rw [after_of_error ran]
  exact ⟨t, carries⟩

theorem after_attachSeries (s : LabelledSeries) :
    ∃ u, ((do
      attach target ⟨.series (← get).series.size, s.claims⟩
      addSeries s : Action Nat).after h).Carries target u := by
  rw [after_bind_of_ok (get_run h)]
  cases decided : t.attach ⟨.series h.series.size, s.claims⟩ with
  | error e =>
    have ran : attach target ⟨.series h.series.size, s.claims⟩ h = .error e h := by
      rw [attach_decides carries.unmarked carries.tidy carries.found, decided]
      rfl
    exact carries.after_refused (bind_of_error ran _)
  | ok u =>
    obtain rfl := Target.attach_eq decided
    rw [after_bind_of_ok (attach_tidy carries.unmarked carries.tidy carries.found decided)]
    exact ⟨_, carries.withSeries s⟩

/-- A series of somebody else is attached, or nothing has changed. -/
theorem after_addForeign (isCounter : Bool) (name : String) (labelNames : List String) :
    ∃ u, ((addForeign target isCounter name labelNames).after h).Carries target u := by
  have based (base : String) :
      ∃ u, ((do
        if base = "" then throw .emptyFamilyName
        attach target ⟨.series (← get).series.size,
          (LabelledSeries.ofLabels isCounter base "foreign" labelNames).claims⟩
        addSeries (.ofLabels isCounter base "foreign" labelNames) : Action Nat).after h).Carries
          target u := by
    dsimp only
    split
    · exact carries.after_refused rfl
    · exact carries.after_attachSeries _
  unfold addForeign
  dsimp only
  split
  case isTrue => exact carries.after_refused rfl
  split
  · exact carries.after_refused rfl
  · exact based _

end Carries

/-- What became of a target that was empty: registries and series of others were attached to it or
refused, in any order, and in between other things went on aside. -/
inductive Crowded (target : Nat) : Host → Prop where
  | start {h : Host} (unmarked : h.marks = []) (tidy : h.strays = [])
      (found : h.targets[target]? = some []) : Crowded target h
  | registry {h : Host} (before : Crowded target h) (exportName : Value) :
      Crowded target ((addRegistry exportName target).after h)
  | foreign {h : Host} (before : Crowded target h) (isCounter : Bool) (name : String)
      (labelNames : List String) :
      Crowded target ((addForeign target isCounter name labelNames).after h)
  | aside {h g : Host} (before : Crowded target h) (aside : Aside target h g) : Crowded target g

theorem Crowded.carries (crowded : Crowded target h) : ∃ t, h.Carries target t := by
  induction crowded with
  | start unmarked tidy found =>
    exact ⟨[], unmarked, tidy, found, List.forall_mem_nil _⟩
  | registry _ exportName ih =>
    obtain ⟨t, carries⟩ := ih
    exact carries.after_addRegistry exportName
  | foreign _ isCounter name labelNames ih =>
    obtain ⟨t, carries⟩ := ih
    exact carries.after_addForeign isCounter name labelNames
  | aside _ aside ih =>
    obtain ⟨t, carries⟩ := ih
    exact ⟨t, carries.aside aside⟩

/-! ## Refused registries -/

/-- The collector of a registry that was not made to the end. -/
def orphanOn (h : Host) (target : Nat) (t : Target) (exportName : Value) : Orphan where
  target := target
  registry := h.registries.size
  exportName := exportName
  ahead := t.supersede exportName
  behind := []

/-- The host without the registries of a name on a target. -/
def detached (h : Host) (target : Nat) (t : Target) (exportName : Value) : Host :=
  { h with targets := h.targets.setIfInBounds target (t.supersede exportName) }

/-- Where no registry has the name, nothing is detached. -/
theorem detached_eq (found : h.targets[target]? = some t) (unused : t.countOf exportName = 0) :
    h.detached target t exportName = h := by
  have all : t.supersede exportName = t := by
    refine List.filter_eq_self.mpr fun a mem => ?_
    have none := List.filter_eq_nil_iff.mp (List.length_eq_zero_iff.mp unused) a mem
    simpa using none
  rw [detached, all, setIfInBounds_of_getElem? found]

theorem Carries.beside_attaching (carries : h.Carries target t) (journal : Journal) :
    Beside (h.orphanOn target t exportName) (h.detached target t exportName)
      (h.attaching target t exportName journal) where
  unmarked := carries.unmarked
  tidy := carries.tidy
  found := by
    rw [Orphan.others, orphanOn, List.append_nil]
    exact Array.getElem?_setIfInBounds_self_of_lt (Array.getElem?_eq_some_iff.mp carries.found).1
  size_eq := rfl
  below := by
    rw [Orphan.others, orphanOn, List.append_nil]
    exact carries.below_supersede
  same := by
    have targets : (h.targets.setIfInBounds target (t.supersede exportName)).setIfInBounds target
        (t.supersede exportName ++ [⟨.registry h.registries.size exportName, []⟩]) =
        h.targets.setIfInBounds target
          (t.supersede exportName ++ [⟨.registry h.registries.size exportName, []⟩]) :=
      Array.setIfInBounds_setIfInBounds ..
    rw [Host.attaching, ← targets]
    rfl

/-- A registry is made unless a name of its counter of failures is held by others. If one is, it is
refused, but by then the registries of its name are detached, and its own collector is attached, so
that the target is never what it was. Other targets and the registries that were there are as they
were. From then on, while those registries are called, what they read changes and the target is
scraped, a scrape gives what it would have given if just the registries of the name had been detached.
So a refusal does not show in scrapes where there was no registry of the name. -/
theorem refused_registry_stays_attached (h : Host) (target : Nat) (t : Target)
    (carries : h.Carries target t) (exportName : Value) :
    (¬ HeldByOthers h t exportName → ∃ id h', addRegistry exportName target h = .ok id h') ∧
    (HeldByOthers h t exportName → ∃ h',
      addRegistry exportName target h =
        .error (.registration (.foreignCollector (failureCounterName exportName))) h' ∧
      h'.targets[target]? =
        some (t.supersede exportName ++ [⟨.registry h.registries.size exportName, []⟩]) ∧
      h'.targets[target]? ≠ some t ∧
      (∀ other, other ≠ target → h'.targets[other]? = h.targets[other]?) ∧
      (∀ id, id < h.registries.size → h'.registries[id]? = h.registries[id]?) ∧
      (∀ k l, Onward target h.registries.size (h.detached target t exportName) h' k l →
        SameAnswer ((scrape target).answer k) ((scrape target).answer l)) ∧
      (t.countOf exportName = 0 → ∀ k l, Onward target h.registries.size h h' k l →
        SameAnswer ((scrape target).answer k) ((scrape target).answer l))) := by
  refine ⟨fun free => ?_, fun held => ?_⟩
  · obtain ⟨id, h', u, ran, -⟩ := carries.addRegistry_had free
    exact ⟨id, h', ran⟩
  obtain ⟨journal, ran⟩ := carries.addRegistry_refused held
  let own : Attachment := ⟨.registry h.registries.size exportName, []⟩
  have found : (h.attaching target t exportName journal).targets[target]? =
      some (t.supersede exportName ++ [own]) := (carries.attaching journal).found
  let o : Orphan := h.orphanOn target t exportName
  have beside : Beside o (h.detached target t exportName)
      (h.attaching target t exportName journal) := carries.beside_attaching journal
  refine ⟨_, ran, found, fun unchanged => ?_, fun other different => ?_, fun id inside => ?_,
    fun k l onward => ?_, fun unused k l onward => ?_⟩
  · have mem : own ∈ t := by
      rw [← Option.some.inj (found.symm.trans unchanged)]
      exact List.mem_append_right _ (List.mem_singleton_self own)
    exact carries.not_mem_new exportName mem
  · exact Array.getElem?_setIfInBounds_ne different.symm
  · exact (Array.getElem?_push_lt inside).trans (Array.getElem?_eq_getElem inside).symm
  · exact Onward.scrape_alike (o := o) onward beside
  · rw [detached_eq carries.found unused] at beside
    exact Onward.scrape_alike (o := o) onward beside

/-- A gauge of somebody else has the name that a registry `db` counts failures under, and a registry of
another name is on the target with it. -/
def beset : Host :=
  ((addForeign 0 false "db_gauge_evaluation_failures" []).after withTarget).andRegistry 0 "other"

def besetTarget : Target :=
  [⟨.series 0, ["db_gauge_evaluation_failures"]⟩, ⟨.registry 0 (.str "other"), []⟩,
    ⟨.series 1, (LabelledSeries.failures (failureCounterName (.str "other"))).claims⟩]

theorem beset_carries : beset.Carries 0 besetTarget := by
  have empty : Crowded 0 withTarget := .start rfl rfl rfl
  have crowded : Crowded 0 beset :=
    (empty.foreign false "db_gauge_evaluation_failures" []).registry (.str "other")
  obtain ⟨t, carries⟩ := crowded.carries
  obtain rfl : besetTarget = t := Option.some.inj carries.found
  exact carries

theorem beset_held : beset.HeldByOthers besetTarget (.str "db") := by
  refine ⟨⟨"db_gauge_evaluation_failures", List.mem_cons_self, List.mem_cons_self⟩, ?_⟩
  intro id s claimant found
  cases claimant
  cases found
  rfl

theorem refused_registry_stays_attached_beset :
    beset.Carries 0 besetTarget ∧ beset.HeldByOthers besetTarget (.str "db") ∧
      besetTarget.countOf (.str "db") = 0 ∧
      ∃ h', addRegistry (.str "db") 0 beset =
          .error (.registration (.foreignCollector "db_gauge_evaluation_failures")) h' ∧
        h'.targets[0]? = some (besetTarget ++ [⟨.registry 1 (.str "db"), []⟩]) ∧
        ∀ k l, Onward 0 1 beset h' k l →
          SameAnswer ((scrape 0).answer k) ((scrape 0).answer l) := by
  obtain ⟨-, refused⟩ :=
    refused_registry_stays_attached beset 0 besetTarget beset_carries (.str "db")
  obtain ⟨h', ran, found, -, -, -, -, alike⟩ := refused beset_held
  exact ⟨beset_carries, beset_held, rfl, h', ran, found, alike rfl⟩

/-- One collector more is on the target after a registry was refused. -/
theorem refused_registry_attaches_collector :
    ∃ h', addRegistry (.str "db") 0 beset =
        .error (.registration (.foreignCollector "db_gauge_evaluation_failures")) h' ∧
      (beset.targets[0]?).map List.length = some 3 ∧ (h'.targets[0]?).map List.length = some 4 := by
  obtain ⟨journal, ran⟩ := beset_carries.addRegistry_refused beset_held
  exact ⟨_, ran, rfl, rfl⟩

end Host

end StorageMetrics
