import StorageMetrics.Proofs.Host.Standing

/-
  New registries on targets that nobody meddled with. A registry detaches those that go by its
  export name, is attached itself, and takes the counter of failures that claims the name, or a new
  one where none of its names is claimed (`addRegistry_run`). On a target without collectors it
  stands by itself (`addRegistry_stands`).
-/

namespace StorageMetrics

open StorageMetrics.Action

/-- What is there already can be put in its place. -/
theorem setIfInBounds_of_getElem? {α : Type} {xs : Array α} {i : Nat} {x : α}
    (there : xs[i]? = some x) : xs.setIfInBounds i x = xs := by
  refine Array.ext_getElem? fun k => ?_
  rw [Array.getElem?_setIfInBounds]
  split
  case isTrue here =>
    subst here
    rw [if_pos (Array.getElem?_eq_some_iff.mp there).1, there]
  case isFalse => rfl

namespace Host

variable {h : Host} {target failures : Nat}

/-! ## Steps -/

section Attaching

variable (unmarked : h.marks = []) (tidy : h.strays = [])

include unmarked tidy

/-- On an untouched target only names that are claimed there are in the way. -/
theorem attach_decides {t : Target} (found : h.targets[target]? = some t) (a : Attachment) :
    attach target a h = (do setTarget target (← Action.ofExcept (t.attach a)) : Action Unit) h := by
  have free : takenNames target h = .ok [] h := by
    rw [takenNames, bind_of_ok (markedValue?_unmarked unmarked _ _)]
    dsimp only
    rw [bind_of_ok (straysOf_tidy tidy _ _)]
    rfl
  have known : getTarget target h = .ok t h := look_run found
  have none_taken : ¬ (a.claims.any fun name => ([] : List Value).any (·.same (.str name))) = true := by
    simp
  rw [attach, bind_of_ok (requireAllUnmarked_unmarked unmarked _ _), bind_of_ok free, if_neg none_taken]
  dsimp only
  refine (ite_bind_run (requireUnmarked_unmarked unmarked _ _) _).trans ?_
  rw [bind_of_ok known]
  cases decided : t.attach a with
  | error e => rfl
  | ok u =>
    have told : Action.ofExcept (.ok u) h = .ok u h := rfl
    have put : setTarget target u h =
      .ok () { h with targets := h.targets.setIfInBounds target u } := rfl
    rw [bind_of_ok told, bind_of_ok told, bind_of_ok put, put]
    exact requireUnmarked_unmarked (h := { h with targets := h.targets.setIfInBounds target u })
      unmarked _ _

theorem attach_tidy {t u : Target} {a : Attachment} (found : h.targets[target]? = some t)
    (attached : t.attach a = .ok u) :
    attach target a h = .ok () { h with targets := h.targets.setIfInBounds target u } := by
  rw [attach_decides unmarked tidy found, attached]
  rfl

/-- A name that is claimed already is in the way. -/
theorem attach_claimed {t : Target} {a : Attachment} (found : h.targets[target]? = some t)
    {claim : String} (claims : claim ∈ a.claims) (claimed : claim ∈ t.claimed) :
    attach target a h = .error .duplicateNames h := by
  have refused : Action.ofExcept (t.attach a) h = .error .duplicateNames h := by
    rw [Target.attach, if_pos]
    · rfl
    · exact List.any_eq_true.mpr ⟨claim, claims, decide_eq_true claimed⟩
  rw [attach_decides unmarked tidy found]
  exact bind_of_error refused _

omit tidy in
theorem requireExportNames_unmarked (t : Target) : requireExportNames t h = .ok () h := by
  induction t with
  | nil => rfl
  | cons a rest ih =>
    rw [requireExportNames]
    cases a.collector with
    | registry id exportName =>
      dsimp only
      rw [bind_of_ok (Item.mark?_run (mark?_of_marks_nil unmarked _ _))]
      exact ih
    | series id => exact ih

omit unmarked tidy in
theorem reportSuperseded_run (exportName : Value) (n : Nat) (h : Host) :
    ∃ journal, reportSuperseded exportName n h = .ok () { h with journal := journal } := by
  induction n generalizing h with
  | zero => exact ⟨h.journal, rfl⟩
  | succ n ih =>
    obtain ⟨journal, ran⟩ := ih { h with journal := h.journal ++ [supersededEntry exportName] }
    refine ⟨journal, ?_⟩
    rw [reportSuperseded, bind_of_ok (report_run h _)]
    exact ran

/-- The registries of the export name are detached and reported. -/
theorem supersede_tidy {t : Target} (found : h.targets[target]? = some t) (exportName : Value) :
    ∃ journal, supersede target exportName h = .ok () { h with
      journal := journal
      targets := h.targets.setIfInBounds target (t.supersede exportName) } := by
  have known : getTarget target h = .ok t h := look_run found
  have nothing : hiddenEntries .collectors target h = .ok 0 h := by
    rw [hiddenEntries, bind_of_ok (strays?_tidy tidy _ _)]
    rfl
  obtain ⟨journal, reported⟩ := reportSuperseded_run exportName (t.countOf exportName) h
  refine ⟨journal, ?_⟩
  rw [supersede, bind_of_ok (markedValue?_unmarked unmarked _ _)]
  dsimp only
  rw [bind_of_ok nothing, bind_of_ok known]
  simp only [List.drop_zero, List.take_zero, List.nil_append]
  rw [bind_of_ok (requireExportNames_unmarked unmarked t)]
  refine (ite_bind_run (requireAllUnmarked_unmarked unmarked _ _) _).trans ?_
  rw [bind_of_ok reported, bind_of_ok (strays?_tidy (h := { h with journal := journal }) tidy _ _)]
  rfl

/-- Where none of its names is claimed, the counter of failures is a new one. -/
theorem failureCounter_tidy {t : Target} (found : h.targets[target]? = some t) {exportName : Value}
    (free : ∀ claim ∈ (LabelledSeries.failures (failureCounterName exportName)).claims,
      claim ∉ t.claimed) :
    failureCounter target exportName h = .ok h.series.size { h with
      targets := h.targets.setIfInBounds target (t ++ [⟨.series h.series.size,
        (LabelledSeries.failures (failureCounterName exportName)).claims⟩])
      series := h.series.push (.failures (failureCounterName exportName)) } := by
  let a : Attachment := ⟨.series h.series.size,
    (LabelledSeries.failures (failureCounterName exportName)).claims⟩
  have accepted : t.attach a = .ok (t ++ [a]) := by
    rw [Target.attach, if_neg]
    rw [List.any_eq_true]
    rintro ⟨claim, claims, claimed⟩
    exact free claim claims (of_decide_eq_true claimed)
  have attached := attach_tidy unmarked tidy found accepted
  rw [failureCounter, bind_of_ok (get_run h), bind_of_ok (outcome_of_ok attached)]
  rfl

/-- Where a counter claims the name, that is the counter of failures. -/
theorem failureCounter_reused {t : Target} (found : h.targets[target]? = some t)
    {exportName : Value} {s : LabelledSeries}
    (claimant : t.claimant? (failureCounterName exportName) = some (.series failures))
    (claimed : failureCounterName exportName ∈ t.claimed)
    (there : h.series[failures]? = some s) (counter : s.isCounter = true) :
    ∃ journal, failureCounter target exportName h = .ok failures { h with journal := journal } := by
  let a : Attachment := ⟨.series h.series.size,
    (LabelledSeries.failures (failureCounterName exportName)).claims⟩
  have refused : attach target a h = .error .duplicateNames h :=
    attach_claimed unmarked tidy found (a := a) List.mem_cons_self claimed
  have known : getTarget target h = .ok t h := look_run found
  have absent : stray? .claims target (.str (failureCounterName exportName)) h = .ok none h := by
    rw [stray?, bind_of_ok (straysOf_tidy tidy _ _)]
    rfl
  have counts : getSeries failures h = .ok s h := look_run there
  refine ⟨h.journal ++ [reuseCollectorEntry (failureCounterName exportName)], ?_⟩
  rw [failureCounter, bind_of_ok (get_run h), bind_of_ok (outcome_of_error refused)]
  dsimp only
  rw [bind_of_ok (requireOwn_unmarked unmarked _ _ _), bind_of_ok known, bind_of_ok absent, claimant]
  dsimp only
  rw [bind_of_ok counts, if_pos counter]
  rfl

end Attaching

/-! ## New registries -/

/-- The host with a new registry on a target, which has not looked for a counter of failures yet. -/
def attaching (h : Host) (target : Nat) (t : Target) (exportName : Value) (journal : Journal) : Host :=
  { h with
    registries := h.registries.push { registry := { exportName := exportName }, target := target }
    targets := h.targets.setIfInBounds target
      (t.supersede exportName ++ [⟨.registry h.registries.size exportName, []⟩])
    journal := journal }

/-- A new registry is attached before it looks for a counter. -/
theorem addRegistry_eq (unmarked : h.marks = []) (tidy : h.strays = []) {t : Target}
    (found : h.targets[target]? = some t) (exportName : Value) :
    ∃ journal, addRegistry exportName target h = (do
      let failures ← failureCounter target exportName
      setRegistry h.registries.size ⟨{ exportName := exportName }, target, some failures⟩
      return h.registries.size : Action Nat) (h.attaching target t exportName journal) := by
  obtain ⟨inside, -⟩ := Array.getElem?_eq_some_iff.mp found
  let a : AttachedRegistry := { registry := { exportName := exportName }, target := target }
  let own : Attachment := ⟨.registry h.registries.size exportName, []⟩
  let h₁ : Host := { h with registries := h.registries.push a }
  have pushed : (modify fun h : Host => { h with registries := h.registries.push a } : Action PUnit) h =
    .ok () h₁ := rfl
  obtain ⟨journal, superseded⟩ :=
    supersede_tidy (h := h₁) unmarked tidy found exportName
  let h₂ : Host := { h₁ with
    journal := journal
    targets := h.targets.setIfInBounds target (t.supersede exportName) }
  have found₂ : h₂.targets[target]? = some (t.supersede exportName) :=
    Array.getElem?_setIfInBounds_self_of_lt inside
  have accepted : (t.supersede exportName).attach own = .ok (t.supersede exportName ++ [own]) := rfl
  have attached := attach_tidy (h := h₂) unmarked tidy found₂ accepted
  have targets : (h.targets.setIfInBounds target (t.supersede exportName)).setIfInBounds target
      (t.supersede exportName ++ [own]) =
      h.targets.setIfInBounds target (t.supersede exportName ++ [own]) :=
    Array.setIfInBounds_setIfInBounds ..
  refine ⟨journal, ?_⟩
  rw [addRegistry, bind_of_ok (get_run h)]
  dsimp only
  rw [bind_of_ok pushed, bind_of_ok superseded, bind_of_ok attached, attaching, ← targets]

/-- What comes of a new registry, once it is known what its looking for a counter comes to. -/
theorem addRegistry_run (unmarked : h.marks = []) (tidy : h.strays = []) {t v : Target}
    (found : h.targets[target]? = some t) {exportName : Value} {series : Array LabelledSeries}
    (counted : ∀ g : Host, g.marks = [] → g.strays = [] → g.series = h.series →
      g.targets[target]? =
        some (t.supersede exportName ++ [⟨.registry h.registries.size exportName, []⟩]) →
      ∃ journal, failureCounter target exportName g = .ok failures { g with
        targets := g.targets.setIfInBounds target v
        series := series
        journal := journal }) :
    ∃ journal, addRegistry exportName target h = .ok h.registries.size { h with
      registries := h.registries.push ⟨{ exportName := exportName }, target, some failures⟩
      targets := h.targets.setIfInBounds target v
      series := series
      journal := journal } := by
  obtain ⟨inside, -⟩ := Array.getElem?_eq_some_iff.mp found
  let a : AttachedRegistry := { registry := { exportName := exportName }, target := target }
  let own : Attachment := ⟨.registry h.registries.size exportName, []⟩
  obtain ⟨journal, made⟩ := addRegistry_eq unmarked tidy found exportName
  obtain ⟨journal', counted⟩ := counted (h.attaching target t exportName journal) unmarked tidy rfl
    (Array.getElem?_setIfInBounds_self_of_lt inside)
  refine ⟨journal', ?_⟩
  have targets : (h.targets.setIfInBounds target (t.supersede exportName ++ [own])).setIfInBounds
      target v = h.targets.setIfInBounds target v := Array.setIfInBounds_setIfInBounds ..
  have registries : (h.registries.push a).setIfInBounds h.registries.size
      { a with failures := some failures } =
      h.registries.push { a with failures := some failures } := by
    rw [Array.setIfInBounds_def, dif_pos (by simp), Array.set_push, dif_neg (Nat.lt_irrefl _)]
  rw [made, bind_of_ok counted, ← targets, ← registries]
  rfl

/-- A registry that is made on a target without collectors stands there. -/
theorem addRegistry_stands (unmarked : h.marks = []) (tidy : h.strays = [])
    (found : h.targets[target]? = some []) (exportName : Value) :
    ∃ g, addRegistry exportName target h = .ok h.registries.size g ∧
      g.Stands h.registries.size target h.series.size { exportName := exportName } := by
  obtain ⟨inside, -⟩ := Array.getElem?_eq_some_iff.mp found
  let own : Attachment := ⟨.registry h.registries.size exportName, []⟩
  let counter : LabelledSeries := .failures (failureCounterName exportName)
  let t : Target := [own, ⟨.series h.series.size, counter.claims⟩]
  have counted (g : Host) (unmarked : g.marks = []) (tidy : g.strays = [])
      (series : g.series = h.series) (found : g.targets[target]? = some [own]) :
      ∃ journal, failureCounter target exportName g = .ok h.series.size { g with
        targets := g.targets.setIfInBounds target t
        series := h.series.push counter
        journal := journal } := by
    have free : ∀ claim ∈ counter.claims, claim ∉ Target.claimed [own] :=
      fun claim _ => List.not_mem_nil
    have ran := failureCounter_tidy unmarked tidy found free
    rw [series] at ran
    exact ⟨g.journal, ran⟩
  obtain ⟨journal, ran⟩ := addRegistry_run unmarked tidy found counted
  exact ⟨_, ran, Array.getElem?_push_size, unmarked, tidy,
    ⟨t, Array.getElem?_setIfInBounds_self_of_lt inside, exportName, Or.inl rfl⟩,
    counter, Array.getElem?_push_size, LabelledSeries.countsFailures_failures _⟩

end Host

end StorageMetrics
