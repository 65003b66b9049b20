import StorageMetrics.Proofs.Host.Building

/-
  Releasing surfaces. A release goes through in every exact registry, any number of times, whatever
  is bound there besides. It takes away the names of the surface, tells how many of them were bound,
  and leaves all other bindings as they are (`releaseSurface_run`).
-/

namespace StorageMetrics

open StorageMetrics.Action

namespace Host

/-- The host has this registry under the number, its family table is exact, and there are no marks. -/
structure Clear (h : Host) (id : Nat) (r : Registry) : Prop extends h.Holds id r where
  exact : r.Exact
  unmarked : h.marks = []

variable {h g : Host} {id : Nat} {r : Registry}

theorem Uses.clear (uses : h.Uses id r) : h.Clear id r :=
  ⟨uses.toHolds, uses.own.exact, uses.unmarked⟩

theorem Clear.uses (clear : h.Clear id r) (own : r.Own) : h.Uses id r :=
  ⟨clear.toHolds, own, clear.unmarked⟩

theorem Clear.report (clear : h.Clear id r) (e : JournalEntry) :
    ({ h with journal := h.journal ++ [e] } : Host).Clear id r :=
  ⟨⟨clear.held, clear.unaltered⟩, clear.exact, clear.unmarked⟩

theorem Clear.mark? (clear : h.Clear id r) (item : Item) (name : String) :
    h.mark? item name = none :=
  mark?_of_marks_nil clear.unmarked item name

/-! ## The names of a surface -/

theorem removeAll_run (clear : h.Clear id r) (gone : List MetricName) :
    ∃ n h', removeAll id gone h = .ok n h' ∧ h'.Clear id (r.removeAll gone) ∧
      n + (r.removeAll gone).names.length = r.names.length ∧ h'.surfaces = h.surfaces := by
  induction gone generalizing h r with
  | nil => exact ⟨0, h, rfl, clear, Nat.zero_add _, rfl⟩
  | cons name rest ih =>
    have ran := remove_run clear.toHolds clear.exact name
    have after : (h.rebind id (r.remove name).1 []).Clear id (r.remove name).1 :=
      ⟨clear.toHolds.rebind _ _, clear.exact.remove name, clear.unmarked⟩
    obtain ⟨n, h', ranRest, clear', counted, surfaces⟩ := ih after
    refine ⟨(if r.contains name then 1 else 0) + n, h', ?_, clear', ?_, surfaces⟩
    · rw [removeAll, bind_of_ok ran, bind_of_ok ranRest]
      rfl
    · have one := clear.exact.length_names_remove name
      show _ + ((r.remove name).1.removeAll rest).names.length = _
      omega

theorem getSurface_run {k : Nat} {surface : Surface} (found : h.surfaces[k]? = some surface) :
    getSurface k h = .ok surface h := look_run found

theorem removeNames_run (clear : h.Clear id r) {k : Nat} {surface : Surface}
    (found : h.surfaces[k]? = some surface) (registry : surface.registry = id) :
    ∃ n h', removeNames k h = .ok n h' ∧ h'.Clear id (r.removeAll surface.identities) ∧
      n + (r.removeAll surface.identities).names.length = r.names.length ∧
      h'.surfaces = h.surfaces := by
  obtain ⟨n, h', ran, rest⟩ := removeAll_run clear surface.identities
  refine ⟨n, h', ?_, rest⟩
  rw [removeNames, bind_of_ok (getSurface_run found), bind_of_ok (Item.mark?_run (clear.mark? _ _)),
    bind_of_ok (Item.markedValue?_run (clear.mark? _ _))]
  dsimp only
  rw [pure_bind, bind_of_ok (Item.mark?_run (clear.mark? _ _)), registry]
  exact ran

theorem tableWord_run (unmarked : h.marks = []) (k : Nat) (part own : String) :
    tableWord k part own h = .ok own h := by
  rw [tableWord, bind_of_ok (Item.markedValue?_run (mark?_of_marks_nil unmarked _ _))]
  rfl

/-! ## Whole releases -/

/-- A release takes away the names of its surface, and tells how many of them were bound. -/
theorem releaseSurface_run (clear : h.Clear id r) {k : Nat} {surface : Surface}
    (found : h.surfaces[k]? = some surface) (registry : surface.registry = id) :
    ∃ h', releaseSurface k h = .ok (r.names.filter (· ∈ surface.identities)).length h' ∧
      h'.Clear id (r.removeAll surface.identities) ∧ h'.surfaces = h.surfaces := by
  obtain ⟨n, g, ran, clear', counted, surfaces⟩ := removeNames_run clear found registry
  have total : n = (r.names.filter (· ∈ surface.identities)).length := by
    have parts := List.length_eq_length_filter_add (l := r.names) (· ∈ surface.identities)
    rw [clear.exact.names_removeAll] at counted
    have others : (r.names.filter fun name => !decide (name ∈ surface.identities)) =
        r.names.filter (· ∉ surface.identities) :=
      List.filter_congr fun name _ => decide_not.symm
    rw [others] at parts
    omega
  have found' : g.surfaces[k]? = some surface := by rw [surfaces, found]
  refine ⟨{ g with journal := g.journal ++
    [releasedEntry surface.scope.keyspace surface.scope.table n] }, ?_, clear'.report _, surfaces⟩
  rw [releaseSurface, bind_of_ok (Item.requireUnmarked_run (clear.mark? _ _)), bind_of_ok ran,
    bind_of_ok (requireOwn_run _ (clear'.mark? _ _)), bind_of_ok (getSurface_run found'),
    bind_of_ok (tableWord_run clear'.unmarked _ _ _),
    bind_of_ok (tableWord_run clear'.unmarked _ _ _), total]
  rfl

end Host

end StorageMetrics
