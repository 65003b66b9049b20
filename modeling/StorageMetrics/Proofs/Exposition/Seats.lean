import Mathlib.Data.List.Infix
import Mathlib.Data.List.Nodup
import StorageMetrics.Host.Registration

/-
  Targets on which there are only registries and their counters of failures. Every export name in
  use has one seat there, held by a registry and kept by a counter. A registry that goes by a name
  in use takes the seat over and leaves the counter where it is (`ConsistsOf.takenOver`). A name
  that is not in use gets a seat of its own (`ConsistsOf.added`), since no two counters claim one
  name (`exportName_eq_of_claims`).
-/

namespace StorageMetrics.Target

/-! ## Claims -/

/-- The names that the counter of failures of this export name claims. -/
def failureClaims (exportName : String) : List String :=
  (LabelledSeries.failures (Host.failureCounterName (.str exportName))).claims

def failureEndings : List String :=
  ["_gauge_evaluation_failures", "_gauge_evaluation_failures_total",
    "_gauge_evaluation_failures_created"]

theorem failureClaims_eq (exportName : String) :
    failureClaims exportName = failureEndings.map (exportName ++ ·) := by
  show [exportName ++ _, exportName ++ _ ++ "_total", exportName ++ _ ++ "_created"] = _
  rw [String.append_assoc, String.append_assoc]
  rfl

/-- A claim tells its export name: no ending of a claim is the end of another one. -/
theorem exportName_eq_of_claims {name other claim : String} (mem : claim ∈ failureClaims name)
    (mem' : claim ∈ failureClaims other) : name = other := by
  have apart : ∀ e ∈ failureEndings, ∀ e' ∈ failureEndings, e.toList <:+ e'.toList → e = e' := by
    decide +kernel
  rw [failureClaims_eq] at mem mem'
  obtain ⟨e, ending, rfl⟩ := List.mem_map.mp mem
  obtain ⟨e', ending', same⟩ := List.mem_map.mp mem'
  have ends : e.toList <:+ (name ++ e).toList := ⟨name.toList, String.toList_append.symm⟩
  have ends' : e'.toList <:+ (name ++ e).toList := ⟨other.toList, by rw [← same, String.toList_append]⟩
  obtain rfl : e = e' := by
    obtain before | after := List.suffix_or_suffix_of_suffix ends ends'
    · exact apart e ending e' ending' before
    · exact (apart e' ending' e ending after).symm
  exact ((String.append_left_inj e).mp same).symm

/-! ## Seats -/

/-- What an export name has on a target: the registry that goes by it, and the counter that all of
its registries count failures on. -/
structure Seat where
  exportName : String
  registry : Nat
  failures : Nat
deriving DecidableEq

namespace Seat

variable (p : Seat)

def holder : Attachment := ⟨.registry p.registry (.str p.exportName), []⟩

def counter : Attachment := ⟨.series p.failures, failureClaims p.exportName⟩

def attachments : List Attachment := [p.holder, p.counter]

theorem isOf_holder (name : String) : isOf (.str name) p.holder = decide (p.exportName = name) := rfl

theorem isOf_counter (name : String) : isOf (.str name) p.counter = false := rfl

end Seat

/-- Registries claim nothing. -/
theorem claimed_append_holder (t : Target) (p : Seat) : claimed (t ++ [p.holder]) = t.claimed := by
  rw [claimed, List.flatMap_append]
  exact List.append_nil _

/-- There is nothing on the target but these seats, each under a name of its own. -/
structure ConsistsOf (t : Target) (seats : List Seat) : Prop where
  names_nodup : (seats.map (·.exportName)).Nodup
  perm : t.Perm (seats.flatMap Seat.attachments)

variable {t : Target} {seats : List Seat} {p : Seat} {name : String}

/-- No collector of these seats goes by a name that none of them has. -/
theorem isOf_of_unused (unused : name ∉ seats.map (·.exportName)) :
    ∀ a ∈ seats.flatMap Seat.attachments, isOf (.str name) a = false := by
  intro a mem
  obtain ⟨p, among, mem⟩ := List.mem_flatMap.mp mem
  obtain rfl | rfl := List.mem_pair.mp mem
  · rw [p.isOf_holder]
    exact decide_eq_false fun same => unused (same ▸ List.mem_map_of_mem among)
  · exact p.isOf_counter name

namespace ConsistsOf

theorem nil : ConsistsOf [] [] := ⟨List.nodup_nil, .refl _⟩

theorem mem_iff (consists : t.ConsistsOf seats) {a : Attachment} :
    a ∈ t ↔ ∃ p ∈ seats, a = p.holder ∨ a = p.counter := by
  rw [consists.perm.mem_iff, List.mem_flatMap]
  simp only [Seat.attachments, List.mem_pair]

/-- The one seat first, and then the others. -/
theorem split (consists : t.ConsistsOf seats) (mem : p ∈ seats) :
    p.exportName ∉ (seats.erase p).map (·.exportName) ∧
      ((seats.erase p).map (·.exportName)).Nodup ∧
      t.Perm (p.holder :: p.counter :: (seats.erase p).flatMap Seat.attachments) := by
  have order := List.perm_cons_erase mem
  have names := (order.map (·.exportName)).nodup_iff.mp consists.names_nodup
  obtain ⟨other, rest⟩ := List.nodup_cons.mp names
  exact ⟨other, rest, consists.perm.trans (order.flatMap_right _)⟩

/-- An export name in use is that of one registry. -/
theorem countOf_eq_one (consists : t.ConsistsOf seats) (mem : p ∈ seats) :
    t.countOf (.str p.exportName) = 1 := by
  obtain ⟨other, -, perm⟩ := consists.split mem
  have none_left : ((seats.erase p).flatMap Seat.attachments).filter
      (isOf (.str p.exportName)) = [] := by
    refine List.filter_eq_nil_iff.mpr fun a among => ?_
    rw [isOf_of_unused other a among]
    exact Bool.false_ne_true
  rw [countOf, (perm.filter _).length_eq, List.filter_cons_of_pos (by simp [p.isOf_holder]),
    List.filter_cons_of_neg (by simp [p.isOf_counter]), none_left]
  rfl

/-- Whatever counter claims the name, it is the one of its seat. -/
theorem claimant?_eq (consists : t.ConsistsOf seats) (mem : p ∈ seats) {claim : String}
    (claims : claim ∈ failureClaims p.exportName) :
    t.claimant? claim = some (.series p.failures) := by
  have there : p.counter ∈ t := consists.mem_iff.mpr ⟨p, mem, Or.inr rfl⟩
  have isSome : (t.find? fun a => decide (claim ∈ a.claims)).isSome :=
    List.find?_isSome.mpr ⟨p.counter, there, decide_eq_true claims⟩
  obtain ⟨a, found⟩ := Option.isSome_iff_exists.mp isSome
  have claimed : claim ∈ a.claims := by simpa using List.find?_some found
  obtain ⟨q, among, rfl | rfl⟩ := consists.mem_iff.mp (List.mem_of_find?_eq_some found)
  · cases claimed
  · have same : q = p := List.inj_on_of_nodup_map consists.names_nodup among mem
      (exportName_eq_of_claims claimed claims)
    rw [claimant?, found, same]
    rfl

theorem mem_claimed (consists : t.ConsistsOf seats) (mem : p ∈ seats) {claim : String}
    (claims : claim ∈ failureClaims p.exportName) : claim ∈ t.claimed :=
  List.mem_flatMap.mpr ⟨p.counter, consists.mem_iff.mpr ⟨p, mem, Or.inr rfl⟩, claims⟩

/-- What a name that is not in use would claim is free. -/
theorem not_mem_claimed (consists : t.ConsistsOf seats)
    (unused : name ∉ seats.map (·.exportName)) {claim : String}
    (claims : claim ∈ failureClaims name) : claim ∉ t.claimed := by
  intro claimed
  obtain ⟨a, mem, claimed⟩ := List.mem_flatMap.mp claimed
  obtain ⟨p, among, rfl | rfl⟩ := consists.mem_iff.mp mem
  · cases claimed
  · exact unused (exportName_eq_of_claims claims claimed ▸ List.mem_map_of_mem among)

/-- A registry that goes by a name in use takes the seat over. -/
theorem takenOver (consists : t.ConsistsOf seats) (mem : p ∈ seats) (id : Nat) :
    (t.supersede (.str p.exportName) ++ [{ p with registry := id }.holder]).ConsistsOf
      ({ p with registry := id } :: seats.erase p) := by
  obtain ⟨other, names, perm⟩ := consists.split mem
  refine ⟨List.nodup_cons.mpr ⟨other, names⟩, ?_⟩
  have left : (t.supersede (.str p.exportName)).Perm
      (p.counter :: (seats.erase p).flatMap Seat.attachments) := by
    have kept : ((seats.erase p).flatMap Seat.attachments).filter
        (fun a => !isOf (.str p.exportName) a) =
        (seats.erase p).flatMap Seat.attachments := by
      refine List.filter_eq_self.mpr fun a among => ?_
      rw [isOf_of_unused other a among]
      rfl
    refine (perm.filter _).trans ?_
    rw [List.filter_cons_of_neg (by simp [p.isOf_holder]),
      List.filter_cons_of_pos (by simp [p.isOf_counter]), kept]
  exact (List.perm_append_singleton _ _).trans (left.cons _)

/-- A name that is not in use takes nobody's seat. -/
theorem supersede_eq (consists : t.ConsistsOf seats) (unused : name ∉ seats.map (·.exportName)) :
    t.supersede (.str name) = t := by
  refine List.filter_eq_self.mpr fun a mem => ?_
  rw [isOf_of_unused unused a (consists.perm.mem_iff.mp mem)]
  rfl

/-- A name that is not in use gets a seat of its own. -/
theorem added (consists : t.ConsistsOf seats) (id failures : Nat)
    (unused : name ∉ seats.map (·.exportName)) :
    (t ++ [Seat.holder ⟨name, id, failures⟩] ++ [Seat.counter ⟨name, id, failures⟩]).ConsistsOf
      (⟨name, id, failures⟩ :: seats) := by
  refine ⟨List.nodup_cons.mpr ⟨unused, consists.names_nodup⟩, ?_⟩
  rw [List.append_assoc]
  exact List.perm_append_comm.trans (consists.perm.append_left _)

end ConsistsOf

end StorageMetrics.Target
