import StorageMetrics.Proofs.Host.Lifetimes

/-
  Surfaces of different tables beside each other. Scopes of two tables can be written alike, as that
  of table `t_0` and that of shard 0 of table `t`, so it is not the scope that keeps them apart: a
  shard is told by its number and has labels of the catalog, a table has none of these. Hence no name
  belongs to two surfaces, and a release leaves what the other surface has (`tables_apart`).
-/

namespace StorageMetrics

open StorageMetrics.Action

namespace Host

variable {h g : Host} {request : SurfaceRequest} {k : Nat}

/-! ## Builds that went through -/

theorem length_of_registerLevels {id : Nat} {levels : List Nat} {handles : List Handle}
    (ran : registerLevels request id levels h = .ok handles g) : handles.length = levels.length := by
  induction levels generalizing h g handles with
  | nil =>
    cases ran
    rfl
  | cons level rest ih =>
    rw [registerLevels] at ran
    obtain ⟨hd, h₁, -, ran⟩ := ok_of_bind ran
    obtain ⟨others, h₂, ranRest, ran⟩ := ok_of_bind ran
    have counted := ih ranRest
    cases ran
    rw [List.length_cons, List.length_cons, counted]

/-- Whatever the host was like, a build that went through made the surface that was asked for, with
the levels of the settings. -/
theorem counted_of_buildSurface (ran : buildSurface request h = .ok k g) :
    ∃ s id count, request.settings.bind levelCount = .ok count ∧ g.surfaces[k]? = some s ∧
      BuiltFor s request id count := by
  rw [buildSurface] at ran
  obtain ⟨id, h₀, -, ran⟩ := ok_of_bind ran
  obtain ⟨_, h₁, -, ran⟩ := ok_of_bind ran
  obtain ⟨ingestTime, h₂, -, ran⟩ := ok_of_bind ran
  obtain ⟨ingestWait, h₃, -, ran⟩ := ok_of_bind ran
  obtain ⟨count, h₄, given, ran⟩ := ok_of_bind ran
  obtain ⟨levels, h₅, leveled, ran⟩ := ok_of_bind ran
  obtain ⟨pending, h₆, -, ran⟩ := ok_of_bind ran
  obtain ⟨live, h₇, -, ran⟩ := ok_of_bind ran
  obtain ⟨iterMove, h₈, -, ran⟩ := ok_of_bind ran
  obtain ⟨iterSeek, h₉, -, ran⟩ := ok_of_bind ran
  obtain ⟨iterNew, h₁₀, -, ran⟩ := ok_of_bind ran
  obtain ⟨_, h₁₁, -, ran⟩ := ok_of_bind ran
  have counted : levels.length = count := by
    rw [length_of_registerLevels leveled, List.length_range]
  cases ran
  exact ⟨_, id, count, ok_of_ofExcept given, Array.getElem?_push_size, rfl, rfl, rfl, rfl, counted⟩

theorem builtFor_of_buildSurface (ran : buildSurface request h = .ok k g) :
    ∃ s id count, g.surfaces[k]? = some s ∧ BuiltFor s request id count := by
  obtain ⟨s, id, count, -, found, built⟩ := counted_of_buildSurface ran
  exact ⟨s, id, count, found, built⟩

/-! ## Releases beside others -/

/-- Asking for any of these names is answered as before, by what is bound to it. -/
def AnswersAlike (id : Nat) (names : List MetricName) (h h' : Host) : Prop :=
  ∀ name ∈ names, ∃ answer, lookUp (.registry id) name h = .ok answer h ∧
    lookUp (.registry id) name h' = .ok answer h'

/-- A release leaves the names alone that are not its own. -/
theorem releaseSurface_spares {r : Registry} {s : Surface} (clear : h.Clear s.registry r)
    (found : h.surfaces[k]? = some s) {names : List MetricName}
    (apart : ∀ name ∈ names, name ∉ s.identities) :
    ∃ n h', releaseSurface k h = .ok n h' ∧ AnswersAlike s.registry names h h' := by
  obtain ⟨h', ran, clear', -⟩ := releaseSurface_run clear found rfl
  refine ⟨_, h', ran, fun name mem => ⟨(r.get? name, r.contains name), ?_, ?_⟩⟩
  · exact lookUp_run clear.toHolds name
  · have same : (r.removeAll s.identities).get? name = r.get? name :=
      clear.exact.get?_removeAll (apart name mem)
    rw [lookUp_run clear'.toHolds, Registry.contains, Registry.contains, same]

/-- Tables that the factory accepts and that differ in keyspace or name have scopes that differ. -/
theorem scope_ne_of_ofValues {keyspace table keyspace' table' : Value} {scope scope' : TableScope}
    (named : TableScope.ofValues keyspace table = .ok scope)
    (named' : TableScope.ofValues keyspace' table' = .ok scope')
    (different : (keyspace, table) ≠ (keyspace', table')) : scope ≠ scope' := by
  rintro rfl
  obtain ⟨rfl, rfl⟩ := TableScope.ofValues_eq_ok named
  obtain ⟨rfl, rfl⟩ := TableScope.ofValues_eq_ok named'
  exact different rfl

/-- Two surfaces of different tables, however many shards and levels they have, share no identity,
and none of theirs is one of throughput. Wherever the one of them is released, whatever else the
registry holds, the identities of the other and those of throughput stay bound to what they were bound
to. -/
theorem tables_apart {keyspace table keyspace' table' : Value} {request' : SurfaceRequest}
    {h' g' : Host} {k' : Nat} (named : TableScope.ofValues keyspace table = .ok request.scope)
    (named' : TableScope.ofValues keyspace' table' = .ok request'.scope)
    (different : (keyspace, table) ≠ (keyspace', table'))
    (built : buildSurface request h = .ok k g) (built' : buildSurface request' h' = .ok k' g') :
    ∃ s s', g.surfaces[k]? = some s ∧ g'.surfaces[k']? = some s' ∧
      s.identities.Disjoint s'.identities ∧
      (∀ name ∈ [outgoingName, incomingName], name ∉ s.identities ∧ name ∉ s'.identities) ∧
      ∀ (now : Host) (r : Registry), now.Clear s.registry r → now.surfaces[k]? = some s →
        ∃ n later, releaseSurface k now = .ok n later ∧
          AnswersAlike s.registry (s'.identities ++ [outgoingName, incomingName]) now later := by
  obtain ⟨s, id, count, found, builtFor⟩ := builtFor_of_buildSurface built
  obtain ⟨s', id', count', found', builtFor'⟩ := builtFor_of_buildSurface built'
  have apart : s.identities.Disjoint s'.identities := by
    intro name mem mem'
    rw [builtFor.identities_eq] at mem
    rw [builtFor'.identities_eq] at mem'
    exact scope_ne_of_ofValues named named' different (Surface.scope_eq_of_mem_nameList mem mem')
  have rates : ∀ name ∈ [outgoingName, incomingName],
      name ∉ s.identities ∧ name ∉ s'.identities := by
    intro name rate
    rw [builtFor.identities_eq, builtFor'.identities_eq]
    exact ⟨rateNames_not_mem_nameList rate _ _ _, rateNames_not_mem_nameList rate _ _ _⟩
  refine ⟨s, s', found, found', apart, rates, fun now r clear here => ?_⟩
  refine releaseSurface_spares clear here fun name mem => ?_
  rcases List.mem_append.mp mem with other | rate
  · exact fun own => apart own other
  · exact (rates name rate).1

/-! ## Scopes that are written alike -/

theorem tables_apart_underscored :
    (∀ label, (underscored.name label).scope = (sharded.shardName label 0).scope) ∧
      TableScope.ofValues (.str "ks") (.str "t_0") = .ok (oneShard underscored).scope ∧
      TableScope.ofValues (.str "ks") (.str "t") = .ok (oneShard sharded).scope ∧
      (Value.str "ks", Value.str "t_0") ≠ (Value.str "ks", Value.str "t") ∧
      ∃ g g' s s' r, buildSurface (oneShard underscored) furnished = .ok 0 g ∧
        buildSurface (oneShard sharded) g = .ok 1 g' ∧ g'.surfaces[0]? = some s ∧
        g'.surfaces[1]? = some s' ∧ s.identities.Disjoint s'.identities ∧ g'.Clear s.registry r ∧
        ∃ n later, releaseSurface 0 g' = .ok n later ∧
          AnswersAlike s.registry (s'.identities ++ [outgoingName, incomingName]) g' later := by
  have likeScopes (label : String) :
      (underscored.name label).scope = (sharded.shardName label 0).scope := by
    have written : sharded.shardTable 0 = underscored.table := by decide +kernel
    show underscored.keyspace ++ "." ++ underscored.table =
      sharded.keyspace ++ "." ++ sharded.shardTable 0
    rw [written]
    rfl
  have different : (Value.str "ks", Value.str "t_0") ≠ (Value.str "ks", Value.str "t") := by
    simp
  obtain ⟨g, g', s, s', r, ran, ran', surfaces, surfaces', builtFor, -, uses, -⟩ :=
    build_underscored_sharded
  have here : g.surfaces[0]? = some s := by rw [surfaces]; rfl
  have here' : g'.surfaces[0]? = some s := by rw [surfaces']; rfl
  have there' : g'.surfaces[1]? = some s' := by rw [surfaces']; rfl
  obtain ⟨a, b, foundA, foundB, apart, -, spares⟩ :=
    tables_apart underscored.ofValues_str sharded.ofValues_str different ran ran'
  obtain rfl : a = s := Option.some.inj (foundA.symm.trans here)
  obtain rfl : b = s' := Option.some.inj (foundB.symm.trans there')
  have clear : g'.Clear a.registry r := by
    rw [builtFor.registry_eq]
    exact uses.clear
  exact ⟨likeScopes, underscored.ofValues_str, sharded.ofValues_str, different, g, g', a, b, r, ran,
    ran', here', there', apart, clear, spares g' r clear here'⟩

end Host

end StorageMetrics
