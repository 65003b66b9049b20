import StorageMetrics.Proofs.Exposition.Seats
import StorageMetrics.Proofs.Host.Attaching
import StorageMetrics.Proofs.Host.RegistryCalls

/-
  Registries that follow each other on one target. In between they are written, the earlier ones
  too, and anything may go on elsewhere (`History`). Then the target consists of the seats of the
  export names in use, each held by the latest registry of its name, and all registries of a name
  count failures on the counter of its seat (`Succession`). A new registry is always made, and it
  leaves the counters as they are (`Succession.addRegistry_run`).
-/

namespace StorageMetrics

open StorageMetrics.Action Target

/-- What a call offers is there, and of the kind that it is offered as. -/
def RegistryCall.Genuine (h : Host) : RegistryCall → Prop
  | register _ (.instrument hd) => ∃ i, h.instruments[hd.id]? = some i ∧ i.kind = hd.kind
  | _ => True

namespace Host

variable {h g h' : Host} {target failures : Nat} {made : List (String × Nat)} {seats : List Seat}

/-- Something went on that touched neither the target nor the registries on it. Failures may have
been counted, and instruments have other contents. -/
structure Elsewhere (target : Nat) (h g : Host) : Prop where
  unmarked : g.marks = []
  tidy : g.strays = []
  target_eq : g.targets[target]? = h.targets[target]?
  registries : ∀ (id : Nat) (a : AttachedRegistry), h.registries[id]? = some a →
    a.target = target → g.registries[id]? = some a
  failures : ∀ (id : Nat) (s : LabelledSeries) (name : String), h.series[id]? = some s →
    s.CountsFailures name → ∃ s', g.series[id]? = some s' ∧ s'.CountsFailures name
  instruments : ∀ (k : Nat) (i : Instrument), h.instruments[k]? = some i →
    ∃ j : Instrument, g.instruments[k]? = some j ∧ j.kind = i.kind

/-- Reads go on elsewhere. -/
theorem Quiet.elsewhere (quiet : Quiet h g) (unmarked : h.marks = []) (tidy : h.strays = [])
    (target : Nat) : Elsewhere target h g where
  unmarked := quiet.marks_eq.trans unmarked
  tidy := quiet.strays_eq.trans tidy
  target_eq := by rw [quiet.targets_eq]
  registries id a found _ := by rw [quiet.registries_eq, found]
  failures := quiet.failures
  instruments k i found := ⟨i, by rw [quiet.instruments_eq, found], rfl⟩

/-- What a target has seen: the registries that were made on it, by export name and number, the
latest one first. -/
inductive History (target : Nat) : List (String × Nat) → Host → Prop where
  | start {h : Host} (unmarked : h.marks = []) (tidy : h.strays = [])
      (found : h.targets[target]? = some []) : History target [] h
  | made {made : List (String × Nat)} {h h' : Host} {id : Nat} (before : History target made h)
      (name : String) (ok : addRegistry (.str name) target h = .ok id h') :
      History target ((name, id) :: made) h'
  | called {made : List (String × Nat)} {h : Host} {name : String} {id : Nat}
      (before : History target made h) (among : (name, id) ∈ made) (call : RegistryCall)
      (genuine : call.Genuine h) : History target made ((call.run id).after h)
  | elsewhere {made : List (String × Nat)} {h g : Host} (before : History target made h)
      (elsewhere : Elsewhere target h g) : History target made g

/-! ## Registries of a target -/

/-- A registry of this export name was made on the target, counts failures on this counter, and
binds instruments that are there. -/
structure Joined (target failures : Nat) (name : String) (id : Nat) (h : Host) (r : Registry) :
    Prop where
  found : h.registries[id]? = some ⟨r, target, some failures⟩
  exportName_eq : r.exportName = .str name
  reachable : r.Reachable
  real : ∀ n hd, r.bindings.get? n = some hd →
    ∃ i : Instrument, h.instruments[hd.id]? = some i ∧ i.kind = hd.kind

namespace Joined

variable {name : String} {id : Nat} {r : Registry}

theorem holds (joined : Joined target failures name id h r) (unmarked : h.marks = [])
    (tidy : h.strays = []) : h.Holds id r :=
  (intact_of_unmarked unmarked).holds tidy joined.found

theorem presents (joined : Joined target failures name id h r) (unmarked : h.marks = [])
    (tidy : h.strays = []) : h.Presents id r := by
  refine (joined.holds unmarked tidy).presents unmarked fun n hd bound i found => ?_
  obtain ⟨j, there, kind⟩ := joined.real n hd bound
  obtain rfl : j = i := Option.some.inj (there.symm.trans found)
  exact kind

theorem congr (joined : Joined target failures name id h r)
    (registry : g.registries[id]? = h.registries[id]?)
    (instruments : ∀ (k : Nat) (i : Instrument), h.instruments[k]? = some i →
      ∃ j : Instrument, g.instruments[k]? = some j ∧ j.kind = i.kind) :
    Joined target failures name id g r where
  found := registry.trans joined.found
  exportName_eq := joined.exportName_eq
  reachable := joined.reachable
  real n hd bound := by
    obtain ⟨i, there, kind⟩ := joined.real n hd bound
    obtain ⟨j, now, same⟩ := instruments _ i there
    exact ⟨j, now, same.trans kind⟩

end Joined

end Host

namespace RegistryCall

variable {h : Host} {call : RegistryCall}

/-- A call makes an instrument at most, and the ones before stay. -/
theorem instruments_making (call : RegistryCall) {k : Nat} {i : Instrument}
    (found : h.instruments[k]? = some i) : (call.making h).instruments[k]? = some i := by
  obtain ⟨inside, -⟩ := Array.getElem?_eq_some_iff.mp found
  have pushed (j : Instrument) : (h.instruments.push j)[k]? = some i := by
    rw [Array.getElem?_push, if_neg (by omega), found]
  cases call <;> first | exact found | exact pushed _

/-- What a call offers is there once the call has made it. -/
theorem Genuine.there (genuine : call.Genuine h) {name : MetricName} {hd : Handle}
    (offers : call.Offers h name hd) :
    ∃ i : Instrument, (call.making h).instruments[hd.id]? = some i ∧ i.kind = hd.kind := by
  cases offers with
  | register name hd => exact genuine
  | counter name => exact ⟨_, Array.getElem?_push_size, rfl⟩
  | histogram name biased => exact ⟨_, Array.getElem?_push_size, rfl⟩

end RegistryCall

namespace Host

variable {h g h' : Host} {target failures : Nat} {made : List (String × Nat)} {seats : List Seat}

/-- The registry of a call has other contents after it. -/
theorem Joined.called {name : String} {id : Nat} {r s : Registry}
    (joined : Joined target failures name id h r) {call : RegistryCall}
    (genuine : call.Genuine h) (reports : Journal) (reachable : s.Reachable)
    (same : s.exportName = r.exportName)
    (bound : ∀ n hd, s.bindings.get? n = some hd →
      r.bindings.get? n = some hd ∨ call.Offers h n hd) :
    Joined target failures name id ((call.making h).rebind id s reports) s where
  found := by
    have registries : (call.making h).registries = h.registries := by cases call <;> rfl
    show ((call.making h).registries.modify id _)[id]? = _
    rw [registries, Array.getElem?_modify, if_pos rfl, joined.found]
    rfl
  exportName_eq := same.trans joined.exportName_eq
  reachable := reachable
  real n hd now := by
    obtain before | offers := bound n hd now
    · obtain ⟨i, there, kind⟩ := joined.real n hd before
      exact ⟨i, call.instruments_making there, kind⟩
    · exact genuine.there offers

/-! ## The succession -/

/-- The target consists of the seats of the export names that registries were made under. -/
structure Succession (target : Nat) (made : List (String × Nat)) (seats : List Seat) (h : Host) :
    Prop where
  unmarked : h.marks = []
  tidy : h.strays = []
  attached : ∃ t, h.targets[target]? = some t ∧ t.ConsistsOf seats
  /-- The latest registry of a name holds its seat. -/
  latest : ∀ p ∈ seats, made.lookup p.exportName = some p.registry
  /-- All registries of a name count failures on the counter of its seat. -/
  joined : ∀ name id, (name, id) ∈ made → ∃ p ∈ seats, p.exportName = name ∧
    ∃ r, Joined target p.failures name id h r
  counts : ∀ p ∈ seats, ∃ s, h.series[p.failures]? = some s ∧
    s.CountsFailures (failureCounterName (.str p.exportName))

namespace Succession

variable (succession : Succession target made seats h)

include succession

/-- The registry in a seat is one of those that were made. -/
theorem mem_made {p : Seat} (mem : p ∈ seats) : (p.exportName, p.registry) ∈ made := by
  obtain ⟨later, earlier, rfl, -⟩ := List.lookup_eq_some_iff.mp (succession.latest p mem)
  exact List.mem_append_right later List.mem_cons_self

/-- The seat of a name in use is the only one. -/
theorem joined_at {p : Seat} (mem : p ∈ seats) {id : Nat} (among : (p.exportName, id) ∈ made) :
    ∃ r, Joined target p.failures p.exportName id h r := by
  obtain ⟨t, -, consists⟩ := succession.attached
  obtain ⟨q, there, same, joined⟩ := succession.joined _ _ among
  obtain rfl : q = p := List.inj_on_of_nodup_map consists.names_nodup there mem same
  exact joined

theorem mem_names_iff {name : String} :
    name ∈ seats.map (·.exportName) ↔ name ∈ made.map (·.1) := by
  constructor
  · intro mem
    obtain ⟨p, among, rfl⟩ := List.mem_map.mp mem
    exact List.mem_map_of_mem (succession.mem_made among)
  · intro mem
    obtain ⟨⟨_, id⟩, among, rfl⟩ := List.mem_map.mp mem
    obtain ⟨p, there, same, -⟩ := succession.joined _ id among
    exact List.mem_map.mpr ⟨p, there, same⟩

theorem elsewhere (elsewhere : Elsewhere target h g) : Succession target made seats g where
  unmarked := elsewhere.unmarked
  tidy := elsewhere.tidy
  attached := by rw [elsewhere.target_eq]; exact succession.attached
  latest := succession.latest
  joined name id among := by
    obtain ⟨p, there, same, r, joined⟩ := succession.joined name id among
    have kept := elsewhere.registries id _ joined.found rfl
    exact ⟨p, there, same, r, joined.congr (kept.trans joined.found.symm) elsewhere.instruments⟩
  counts p mem := by
    obtain ⟨s, found, counts⟩ := succession.counts p mem
    exact elsewhere.failures _ s _ found counts

/-- Whatever registry is written, the seats stay as they are. -/
theorem called {name : String} {id : Nat} (among : (name, id) ∈ made) {call : RegistryCall}
    (genuine : call.Genuine h) : Succession target made seats ((call.run id).after h) := by
  obtain ⟨p, -, -, r, joined⟩ := succession.joined name id among
  obtain ⟨s, reports, ran, reachable, same, bound⟩ := RegistryCall.after_rebind
    (joined.holds succession.unmarked succession.tidy) joined.reachable call
  rw [ran]
  have making : (call.making h).marks = h.marks ∧ (call.making h).strays = h.strays ∧
      (call.making h).targets = h.targets ∧ (call.making h).series = h.series ∧
      (call.making h).registries = h.registries := by
    cases call <;> exact ⟨rfl, rfl, rfl, rfl, rfl⟩
  obtain ⟨marks, strays, targets, series, registries⟩ := making
  refine ⟨marks.trans succession.unmarked, strays.trans succession.tidy, ?_, succession.latest,
    fun name' id' among' => ?_, fun p mem => ?_⟩
  · show ∃ t, (call.making h).targets[target]? = some t ∧ _
    rw [targets]
    exact succession.attached
  · obtain ⟨p, there, named, r', joined'⟩ := succession.joined name' id' among'
    refine ⟨p, there, named, ?_⟩
    by_cases here : id' = id
    · subst here
      obtain rfl : r = r' := by
        have found := joined.found.symm.trans joined'.found
        exact congrArg AttachedRegistry.registry (Option.some.inj found)
      exact ⟨s, joined'.called genuine reports reachable same bound⟩
    · refine ⟨r', joined'.congr ?_ fun k i found => ⟨i, call.instruments_making found, rfl⟩⟩
      show ((call.making h).registries.modify id _)[id']? = _
      rw [registries, Array.getElem?_modify, if_neg (Ne.symm here)]
  · show ∃ s, (call.making h).series[p.failures]? = some s ∧ _
    rw [series]
    exact succession.counts p mem

end Succession

/-! ## New registries -/

/-- A registry more stands on the target, and there are other reports. Counters are only added. -/
structure OneMore (target : Nat) (name : String) (counter : Nat) (h h' : Host) : Prop where
  unmarked : h'.marks = h.marks
  tidy : h'.strays = h.strays
  instruments : h'.instruments = h.instruments
  registries : h'.registries =
    h.registries.push ⟨{ exportName := .str name }, target, some counter⟩
  series : ∀ (k : Nat) (s : LabelledSeries), h.series[k]? = some s → h'.series[k]? = some s

namespace OneMore

variable {name : String} {counter : Nat}

theorem joined_new (more : OneMore target name counter h h') :
    Joined target counter name h.registries.size h' { exportName := .str name } where
  found := by rw [more.registries, Array.getElem?_push_size]
  exportName_eq := rfl
  reachable := .empty _
  real n hd bound := by cases bound

theorem joined_old (more : OneMore target name counter h h') {other : String} {id : Nat}
    {r : Registry} (joined : Joined target failures other id h r) :
    Joined target failures other id h' r := by
  obtain ⟨inside, -⟩ := Array.getElem?_eq_some_iff.mp joined.found
  refine joined.congr ?_ fun k i found => ⟨i, by rw [more.instruments, found], rfl⟩
  rw [more.registries, Array.getElem?_push, if_neg (by omega)]

end OneMore

namespace Succession

variable (succession : Succession target made seats h)

include succession

/-- The succession goes on when the new registry gets a seat, and those that are left keep theirs.
A seat that is not left was one of the same name and counter. -/
theorem goesOn {name : String} {counter : Nat} (more : OneMore target name counter h h')
    {u : Target} {rest : List Seat} (found : h'.targets[target]? = some u)
    (consists : u.ConsistsOf (⟨name, h.registries.size, counter⟩ :: rest))
    (kept : ∀ p ∈ rest, p ∈ seats)
    (left : ∀ p ∈ seats, p ∈ rest ∨ p.exportName = name ∧ p.failures = counter)
    (counts : ∃ s, h'.series[counter]? = some s ∧
      s.CountsFailures (failureCounterName (.str name))) :
    Succession target ((name, h.registries.size) :: made)
      (⟨name, h.registries.size, counter⟩ :: rest) h' := by
  have others : name ∉ rest.map (·.exportName) := (List.nodup_cons.mp consists.names_nodup).1
  refine ⟨more.unmarked.trans succession.unmarked, more.tidy.trans succession.tidy,
    ⟨u, found, consists⟩, ?_, fun other id among => ?_, ?_⟩
  · refine List.forall_mem_cons.mpr ⟨List.lookup_cons_self, fun p mem => ?_⟩
    have differ : p.exportName ≠ name := fun same => others (same ▸ List.mem_map_of_mem mem)
    rw [List.lookup_cons, beq_false_of_ne differ]
    exact succession.latest p (kept p mem)
  · obtain here | among := List.mem_cons.mp among
    · obtain ⟨rfl, rfl⟩ := Prod.mk.inj here
      exact ⟨_, List.mem_cons_self, rfl, _, more.joined_new⟩
    · obtain ⟨p, there, rfl, r, joined⟩ := succession.joined other id among
      have joined' := more.joined_old joined
      obtain mem | ⟨rfl, rfl⟩ := left p there
      · exact ⟨p, List.mem_cons_of_mem _ mem, rfl, r, joined'⟩
      · exact ⟨_, List.mem_cons_self, rfl, r, joined'⟩
  · refine List.forall_mem_cons.mpr ⟨counts, fun p mem => ?_⟩
    obtain ⟨s, found, counts⟩ := succession.counts p (kept p mem)
    exact ⟨s, more.series _ s found, counts⟩

/-- A registry that goes by a name in use takes the seat of the one before it, and goes on with
its counter. -/
theorem takenOver {p : Seat} (mem : p ∈ seats) :
    ∃ h', addRegistry (.str p.exportName) target h = .ok h.registries.size h' ∧
      OneMore target p.exportName p.failures h h' ∧
      Succession target ((p.exportName, h.registries.size) :: made)
        ({ p with registry := h.registries.size } :: seats.erase p) h' := by
  obtain ⟨t, found, consists⟩ := succession.attached
  obtain ⟨inside, -⟩ := Array.getElem?_eq_some_iff.mp found
  let q : Seat := { p with registry := h.registries.size }
  let u : Target := t.supersede (.str p.exportName) ++ [q.holder]
  have after : u.ConsistsOf (q :: seats.erase p) := consists.takenOver mem _
  have claim : failureCounterName (.str p.exportName) ∈ failureClaims p.exportName :=
    List.mem_cons_self
  obtain ⟨s, there, counts⟩ := succession.counts p mem
  have counted (g : Host) (unmarked : g.marks = []) (tidy : g.strays = [])
      (series : g.series = h.series) (found : g.targets[target]? = some u) :
      ∃ journal, failureCounter target (.str p.exportName) g = .ok p.failures { g with
        targets := g.targets.setIfInBounds target u
        series := h.series
        journal := journal } := by
    obtain ⟨journal, ran⟩ := failureCounter_reused unmarked tidy found
      (after.claimant?_eq List.mem_cons_self claim) (after.mem_claimed List.mem_cons_self claim)
      (series ▸ there) counts.isCounter
    refine ⟨journal, ran.trans ?_⟩
    rw [setIfInBounds_of_getElem? found, ← series]
  obtain ⟨journal, ran⟩ := addRegistry_run succession.unmarked succession.tidy found counted
  have more : OneMore target p.exportName p.failures h { h with
      registries := h.registries.push ⟨{ exportName := .str p.exportName }, target, some p.failures⟩
      targets := h.targets.setIfInBounds target u
      series := h.series
      journal := journal } := ⟨rfl, rfl, rfl, rfl, fun _ _ => id⟩
  refine ⟨_, ran, more, succession.goesOn more
    (Array.getElem?_setIfInBounds_self_of_lt inside) after (fun r => List.mem_of_mem_erase)
    (fun r among => ?_) ⟨s, there, counts⟩⟩
  by_cases same : r = p
  · exact Or.inr (same ▸ ⟨rfl, rfl⟩)
  · exact Or.inl ((List.mem_erase_of_ne same).mpr among)

/-- A registry that goes by a new name gets a seat and a counter of its own. -/
theorem added {name : String} (unused : name ∉ seats.map (·.exportName)) :
    ∃ h', addRegistry (.str name) target h = .ok h.registries.size h' ∧
      OneMore target name h.series.size h h' ∧
      Succession target ((name, h.registries.size) :: made)
        (⟨name, h.registries.size, h.series.size⟩ :: seats) h' := by
  obtain ⟨t, found, consists⟩ := succession.attached
  obtain ⟨inside, -⟩ := Array.getElem?_eq_some_iff.mp found
  let q : Seat := ⟨name, h.registries.size, h.series.size⟩
  let counter : LabelledSeries := .failures (failureCounterName (.str name))
  let u : Target := t ++ [q.holder] ++ [q.counter]
  have after : u.ConsistsOf (q :: seats) := consists.added _ _ unused
  have counted (g : Host) (unmarked : g.marks = []) (tidy : g.strays = [])
      (series : g.series = h.series)
      (found : g.targets[target]? = some (t.supersede (.str name) ++ [q.holder])) :
      ∃ journal, failureCounter target (.str name) g = .ok h.series.size { g with
        targets := g.targets.setIfInBounds target u
        series := h.series.push counter
        journal := journal } := by
    rw [consists.supersede_eq unused] at found
    have free : ∀ claim ∈ counter.claims, claim ∉ claimed (t ++ [q.holder]) := by
      intro claim claims
      rw [claimed_append_holder]
      exact consists.not_mem_claimed unused claims
    have ran := failureCounter_tidy unmarked tidy found free
    rw [series] at ran
    exact ⟨g.journal, ran⟩
  obtain ⟨journal, ran⟩ := addRegistry_run succession.unmarked succession.tidy found counted
  have more : OneMore target name h.series.size h { h with
      registries := h.registries.push ⟨{ exportName := .str name }, target, some h.series.size⟩
      targets := h.targets.setIfInBounds target u
      series := h.series.push counter
      journal := journal } := by
    refine ⟨rfl, rfl, rfl, rfl, fun k s there => ?_⟩
    obtain ⟨inside, -⟩ := Array.getElem?_eq_some_iff.mp there
    rw [Array.getElem?_push, if_neg (by omega), there]
  exact ⟨_, ran, more, succession.goesOn more (Array.getElem?_setIfInBounds_self_of_lt inside)
    after (fun p => id) (fun p => Or.inl)
    ⟨counter, Array.getElem?_push_size, LabelledSeries.countsFailures_failures _⟩⟩

/-- A new registry is always made, with a counter that is new or the one of its name. -/
theorem addRegistry_run (name : String) :
    ∃ h' seats' counter, addRegistry (.str name) target h = .ok h.registries.size h' ∧
      OneMore target name counter h h' ∧
      Succession target ((name, h.registries.size) :: made) seats' h' ∧
      ∀ p ∈ seats, p.exportName = name → counter = p.failures := by
  obtain ⟨t, found, consists⟩ := succession.attached
  by_cases used : name ∈ seats.map (·.exportName)
  · obtain ⟨p, mem, rfl⟩ := List.mem_map.mp used
    obtain ⟨h', ran, more, succession'⟩ := succession.takenOver mem
    refine ⟨h', _, _, ran, more, succession', fun q among same => ?_⟩
    rw [List.inj_on_of_nodup_map consists.names_nodup among mem same]
  · obtain ⟨h', ran, more, succession'⟩ := succession.added used
    refine ⟨h', _, _, ran, more, succession', fun q among same => ?_⟩
    exact absurd (same ▸ List.mem_map_of_mem among) used

end Succession

/-- What one step keeps, a history keeps. -/
theorem History.succession (history : History target made h) :
    ∃ seats, Succession target made seats h := by
  induction history with
  | start unmarked tidy found =>
    exact ⟨[], unmarked, tidy, ⟨[], found, .nil⟩, List.forall_mem_nil _,
      fun _ _ among => absurd among List.not_mem_nil, List.forall_mem_nil _⟩
  | made before name ok ih =>
    obtain ⟨seats, succession⟩ := ih
    obtain ⟨h', seats', counter, ran, -, succession', -⟩ := succession.addRegistry_run name
    obtain ⟨rfl, rfl⟩ := EStateM.Result.ok.inj (ok.symm.trans ran)
    exact ⟨seats', succession'⟩
  | called before among call genuine ih =>
    obtain ⟨seats, succession⟩ := ih
    exact ⟨seats, succession.called among genuine⟩
  | elsewhere before elsewhere ih =>
    obtain ⟨seats, succession⟩ := ih
    exact ⟨seats, succession.elsewhere elsewhere⟩

end Host

end StorageMetrics
