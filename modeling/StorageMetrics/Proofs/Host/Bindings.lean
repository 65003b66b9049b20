import Mathlib.Data.List.Induction
import StorageMetrics.Proofs.Host.LookUps
import StorageMetrics.Proofs.Host.RegistryCalls

/-
  What a name is bound to over time. A use of a registry leaves the bindings as they are, binds one
  name that was unbound, or unbinds one name (`RegistryUse.turn`). Hence what is bound after a run
  is what the run's calls say: the instruments that were given for unbound names and not taken away
  since, in the order of the calls that bound them (`Recorded`). From the call that binds a name to
  the removal that finds it, every call that goes through gives the one instrument
  (`bindings_stand`).
-/

namespace StorageMetrics

/-- What is done with a registry: a call that can change it, or a question. In between somebody may
make an instrument to be offered later. -/
inductive RegistryUse where
  | change (call : RegistryCall)
  | get (name : MetricName)
  | contains (name : MetricName)
  | names (scope : Value)
  | size
  | inventory (scope : Value)
  | make (i : Instrument)

namespace RegistryUse

/-- Carries a use out on a registry of the host. -/
def run (id : Nat) : RegistryUse → Action Unit
  | change call => call.run id
  | get name => do let _ ← Host.lookUp (.registry id) name
  | contains name => do let _ ← Host.isBound (.registry id) name
  | names scope => do let _ ← Host.namesIn id scope
  | size => do let _ ← (Item.registry id).size
  | inventory scope => do let _ ← Host.inventoryOf (.registry id) scope
  | make i => do let _ ← Host.addInstrument i

/-- The use is a call for the name that goes through and gives this instrument. -/
def Gives (id : Nat) (h : Host) (name : MetricName) (hd : Handle) : RegistryUse → Prop
  | change (.register n offer) => n = name ∧ ∃ h', Host.register id n offer h = .ok hd h'
  | change (.counter n) => n = name ∧ ∃ h', Host.counter id n h = .ok hd h'
  | change (.histogram n biased) => n = name ∧ ∃ h', Host.histogram id n biased h = .ok hd h'
  | _ => False

/-- The use is a removal that tells that the name was bound. -/
def TakesAway (id : Nat) (h : Host) (name : MetricName) : RegistryUse → Prop
  | change (.remove n) => n = name ∧ ∃ h', Host.remove id n h = .ok true h'
  | _ => False

/-- What a use can do to the bindings of a registry. -/
inductive Turn (use : RegistryUse) (id : Nat) (h : Host) (r s : Registry) : Prop where
  | keeps (same : s.bindings = r.bindings)
      (given : ∀ name hd, use.Gives id h name hd → r.get? name = some hd)
      (left : ∀ name, ¬ use.TakesAway id h name)
  | binds (name : MetricName) (hd : Handle) (unbound : r.get? name = none)
      (bound : s.bindings = r.bindings.insert name hd)
      (given : ∀ other hd', use.Gives id h other hd' ↔ other = name ∧ hd' = hd)
      (left : ∀ other, ¬ use.TakesAway id h other)
  | takes (name : MetricName) (gone : s.bindings = r.bindings.erase name)
      (given : ∀ other hd, ¬ use.Gives id h other hd)
      (taken : ∀ other, use.TakesAway id h other ↔ other = name)

end RegistryUse

/-! ## One use -/

/-- A registration that went through found the name bound, or bound it. -/
theorem Registry.register_outcome {r : Registry} {name : MetricName} {offer : Offer}
    {reg : Registration} (ok : r.register name offer = .ok reg) :
    (∃ held, r.get? name = some held ∧ reg = ⟨r, held, true⟩) ∨
      ∃ hd, r.get? name = none ∧ reg = ⟨r.bind name hd, hd, false⟩ := by
  obtain ⟨held, bound, same⟩ | ⟨hd, -, unbound, -, same⟩ := register_cases ok
  · exact Or.inl ⟨held, bound, same⟩
  · exact Or.inr ⟨hd, unbound, same⟩

theorem Registry.obtain_outcome {r : Registry} {kind : InstrumentKind} {name : MetricName}
    {fresh : Nat} {reg : Registration} (ok : r.obtain kind name fresh = .ok reg) :
    (∃ held, r.get? name = some held ∧ reg = ⟨r, held, true⟩) ∨
      ∃ hd, r.get? name = none ∧ reg = ⟨r.bind name hd, hd, false⟩ := by
  obtain ⟨held, bound, -, same⟩ | ⟨-, ok⟩ := obtain_cases ok
  · exact Or.inl ⟨held, bound, same⟩
  · exact register_outcome ok

/-- What is obtained is of the kind that was asked for. -/
theorem Registry.kind_of_obtain {r : Registry} {kind : InstrumentKind} {name : MetricName}
    {fresh : Nat} {reg : Registration} (ok : r.obtain kind name fresh = .ok reg) :
    reg.bound.kind = kind := by
  obtain ⟨held, -, same, rfl⟩ | ⟨unbound, ok⟩ := obtain_cases ok
  · exact same
  · obtain ⟨held, bound, -⟩ | ⟨hd, offered, -, -, rfl⟩ := register_cases ok
    · rw [unbound] at bound
      cases bound
    · cases offered
      rfl

namespace RegistryUse

open Host StorageMetrics.Action

variable {h : Host} {id : Nat} {r : Registry}

/-- A use that is a decided registration. -/
theorem turn_of_settled {use : RegistryUse} {t : Action Handle} {g : Host} (holds : g.Holds id r)
    (reachable : r.Reachable) (name : MetricName) (decided : Except RegistrationError Registration)
    (runs : use.run id = do let _ ← t) (ran : t h = settled id name decided g)
    (gives : ∀ other hd, use.Gives id h other hd ↔ name = other ∧ ∃ h', t h = .ok hd h')
    (left : ∀ other, ¬ use.TakesAway id h other)
    (leads : ∀ reg, decided = .ok reg → reg.registry.Reachable)
    (outcome : ∀ reg, decided = .ok reg → (∃ held, r.get? name = some held ∧ reg = ⟨r, held, true⟩) ∨
      ∃ hd, r.get? name = none ∧ reg = ⟨r.bind name hd, hd, false⟩) :
    ∃ s, ((use.run id).after h).Holds id s ∧ s.Reachable ∧ use.Turn id h r s := by
  rw [runs, after_discard]
  cases decided with
  | error e =>
    have failed : t h = .error (.registration e) g := ran
    rw [after_of_error failed]
    refine ⟨r, holds, reachable, .keeps rfl (fun other hd given => ?_) left⟩
    obtain ⟨-, h', ok⟩ := (gives other hd).mp given
    rw [failed] at ok
    cases ok
  | ok reg =>
    have done : t h = .ok reg.bound (g.rebind id reg.registry (reuseReports name reg)) := ran
    have given (other : MetricName) (hd : Handle) :
        use.Gives id h other hd ↔ name = other ∧ hd = reg.bound := by
      rw [gives, done]
      constructor
      · rintro ⟨same, h', ok⟩
        cases ok
        exact ⟨same, rfl⟩
      · rintro ⟨same, rfl⟩
        exact ⟨same, _, rfl⟩
    rw [after_of_ok done]
    refine ⟨reg.registry, holds.rebind _ _, leads reg rfl, ?_⟩
    obtain ⟨held, bound, rfl⟩ | ⟨hd, unbound, rfl⟩ := outcome reg rfl
    · refine .keeps rfl (fun other hd gave => ?_) left
      obtain ⟨rfl, rfl⟩ := (given other hd).mp gave
      exact bound
    · refine .binds name hd unbound rfl (fun other hd' => ?_) left
      rw [given]
      exact and_congr_left fun _ => eq_comm

/-- A use that neither gives nor takes anything leaves the bindings as they were. -/
theorem turn_of_silent (use : RegistryUse) {t : Action α} {a : α} {g : Host}
    (holds : g.Holds id r) (reachable : r.Reachable) (runs : use.run id = do let _ ← t)
    (ran : t h = .ok a g) (given : ∀ name hd, ¬ use.Gives id h name hd)
    (left : ∀ name, ¬ use.TakesAway id h name) :
    ∃ s, ((use.run id).after h).Holds id s ∧ s.Reachable ∧ use.Turn id h r s := by
  rw [runs, after_discard, after_of_ok ran]
  exact ⟨r, holds, reachable, .keeps rfl (fun name hd gave => absurd gave (given name hd)) left⟩

theorem turn_of_remove (holds : h.Holds id r) (reachable : r.Reachable) (name : MetricName) :
    ∃ s, (((change (.remove name)).run id).after h).Holds id s ∧ s.Reachable ∧
      (change (.remove name)).Turn id h r s := by
  have ran := remove_run holds reachable.exact name
  have runs : (change (.remove name)).run id = (do let _ ← Host.remove id name : Action Unit) := rfl
  have taken (other : MetricName) : (change (.remove name)).TakesAway id h other ↔
      name = other ∧ r.contains name = true := by
    show (name = other ∧ ∃ h', Host.remove id name h = .ok true h') ↔ _
    rw [ran]
    refine and_congr_right fun _ => ⟨?_, ?_⟩
    · rintro ⟨h', ok⟩
      exact (EStateM.Result.ok.inj ok).1
    · intro found
      rw [found]
      exact ⟨_, rfl⟩
  rw [runs, after_discard, after_of_ok ran]
  refine ⟨(r.remove name).1, holds.rebind _ _, reachable.removed name, ?_⟩
  cases found : r.contains name with
  | true =>
    refine .takes name (reachable.exact.bindings_remove name) (fun _ _ => not_false) fun other => ?_
    rw [taken, found]
    simp [eq_comm]
  | false =>
    have unbound : r.bindings.get? name = none := by
      simpa [Registry.contains, Registry.get?] using found
    refine .keeps ?_ (fun _ _ => False.elim) fun other => ?_
    · rw [Registry.Exact.remove_of_unbound unbound]
    · rw [taken, found]
      simp

/-- A use leaves the bindings as they are, binds one name that was unbound, or unbinds one. -/
theorem turn (holds : h.Holds id r) (reachable : r.Reachable) (use : RegistryUse) :
    ∃ s, ((use.run id).after h).Holds id s ∧ s.Reachable ∧ use.Turn id h r s := by
  cases use with
  | change call =>
    cases call with
    | register name offer =>
      exact turn_of_settled holds reachable name _ rfl (register_run holds name offer) (fun _ _ => Iff.rfl)
        (fun _ => not_false) (fun _ => reachable.registered) fun _ => Registry.register_outcome
    | counter name =>
      exact turn_of_settled (holds.withInstrument _) reachable name _ rfl (counter_run holds name)
        (fun _ _ => Iff.rfl) (fun _ => not_false) (fun _ => reachable.obtained)
        fun _ => Registry.obtain_outcome
    | histogram name biased =>
      exact turn_of_settled (holds.withInstrument _) reachable name _ rfl (histogram_run holds name biased)
        (fun _ _ => Iff.rfl) (fun _ => not_false) (fun _ => reachable.obtained)
        fun _ => Registry.obtain_outcome
    | remove name => exact turn_of_remove holds reachable name
  | get name =>
    exact turn_of_silent (.get name) holds reachable rfl (lookUp_run holds name) (fun _ _ => not_false)
      fun _ => not_false
  | contains name =>
    exact turn_of_silent (.contains name) holds reachable rfl (isBound_run holds name)
      (fun _ _ => not_false) fun _ => not_false
  | names scope =>
    exact turn_of_silent (.names scope) holds reachable rfl (namesIn_run holds scope)
      (fun _ _ => not_false) fun _ => not_false
  | size =>
    exact turn_of_silent .size holds reachable rfl (size_run holds) (fun _ _ => not_false)
      fun _ => not_false
  | inventory scope =>
    exact turn_of_silent (.inventory scope) holds reachable rfl (inventoryOf_run holds scope)
      (fun _ _ => not_false) fun _ => not_false
  | make i =>
    exact turn_of_silent (.make i) (t := addInstrument i) (holds.withInstrument i) reachable rfl rfl
      (fun _ _ => not_false) fun _ => not_false

end RegistryUse

/-! ## Runs -/

namespace Host

open StorageMetrics.Action

/-- The host once a registry was used so. -/
def afterUses (id : Nat) (uses : List RegistryUse) (h : Host) : Host :=
  uses.foldl (fun h use => (use.run id).after h) h

theorem afterUses_append (id : Nat) (uses : List RegistryUse) (use : RegistryUse) (h : Host) :
    h.afterUses id (uses ++ [use]) = (use.run id).after (h.afterUses id uses) := by
  rw [afterUses, List.foldl_append]
  rfl

/-- The use with this number bound the name, which was unbound, to the instrument that it gave, and
no removal after it found the name. -/
structure Standing (id : Nat) (uses : List RegistryUse) (h : Host) (name : MetricName) (hd : Handle)
    (k : Nat) : Prop where
  unbound : lookUp (.registry id) name (h.afterUses id (uses.take k)) =
    .ok (none, false) (h.afterUses id (uses.take k))
  given : ∃ use, uses[k]? = some use ∧ use.Gives id (h.afterUses id (uses.take k)) name hd
  kept : ∀ i use, k < i → uses[i]? = some use →
    ¬ use.TakesAway id (h.afterUses id (uses.take i)) name

variable {h : Host} {id : Nat} {uses : List RegistryUse} {name : MetricName} {hd : Handle} {k : Nat}

theorem Standing.lt_length (standing : Standing id uses h name hd k) : k < uses.length := by
  obtain ⟨use, found, -⟩ := standing.given
  exact (List.getElem?_eq_some_iff.mp found).1

/-- A binding stands after one more use if it stood before and is not taken away, or if this use
made it. -/
theorem standing_append_iff (use : RegistryUse) :
    Standing id (uses ++ [use]) h name hd k ↔
      (Standing id uses h name hd k ∧ ¬ use.TakesAway id (h.afterUses id uses) name) ∨
      (k = uses.length ∧ use.Gives id (h.afterUses id uses) name hd ∧
        lookUp (.registry id) name (h.afterUses id uses) = .ok (none, false) (h.afterUses id uses)) := by
  have early {i : Nat} (before : i < uses.length) :
      (uses ++ [use]).take i = uses.take i ∧ (uses ++ [use])[i]? = uses[i]? :=
    ⟨List.take_append_of_le_length (Nat.le_of_lt before), List.getElem?_append_left before⟩
  have last : (uses ++ [use]).take uses.length = uses ∧ (uses ++ [use])[uses.length]? = some use := by
    constructor
    · simp
    · simp
  constructor
  · intro standing
    have bound := standing.lt_length
    rw [List.length_append, List.length_singleton] at bound
    obtain ⟨unbound, ⟨maker, found, given⟩, kept⟩ := standing
    by_cases here : k = uses.length
    · subst here
      rw [last.1] at unbound given
      rw [last.2] at found
      cases found
      exact Or.inr ⟨rfl, given, unbound⟩
    · have before : k < uses.length := by omega
      rw [(early before).1] at unbound given
      rw [(early before).2] at found
      have untaken := kept uses.length use before last.2
      rw [last.1] at untaken
      refine Or.inl ⟨⟨unbound, ⟨maker, found, given⟩, fun i other later at_i => ?_⟩, untaken⟩
      have inside := (List.getElem?_eq_some_iff.mp at_i).1
      rw [← (early inside).1]
      exact kept i other later ((early inside).2.trans at_i)
  · rintro (⟨standing, untaken⟩ | ⟨rfl, given, unbound⟩)
    · have before := standing.lt_length
      obtain ⟨unbound, ⟨maker, found, given⟩, kept⟩ := standing
      refine ⟨?_, ⟨maker, ?_, ?_⟩, fun i other later at_i => ?_⟩
      · rwa [(early before).1]
      · rwa [(early before).2]
      · rwa [(early before).1]
      · by_cases here : i = uses.length
        · subst here
          rw [last.2] at at_i
          cases at_i
          rwa [last.1]
        · have bound := (List.getElem?_eq_some_iff.mp at_i).1
          rw [List.length_append, List.length_singleton] at bound
          have inside : i < uses.length := by omega
          rw [(early inside).1]
          exact kept i other later ((early inside).2.symm.trans at_i)
    · refine ⟨?_, ⟨use, last.2, ?_⟩, fun i other later at_i => ?_⟩
      · rwa [last.1]
      · rwa [last.1]
      · have bound := (List.getElem?_eq_some_iff.mp at_i).1
        rw [List.length_append, List.length_singleton] at bound
        omega

/-- The binding of the one name was made before that of the other. -/
def BoundBefore (id : Nat) (uses : List RegistryUse) (h : Host) (a b : MetricName) : Prop :=
  ∀ ha hb i k, Standing id uses h a ha i → Standing id uses h b hb k → i < k

/-- A registry that holds what a run says: the bindings that stand, in the order of their making. -/
structure Recorded (id : Nat) (uses : List RegistryUse) (h : Host) (r : Registry) : Prop where
  holds : (h.afterUses id uses).Holds id r
  reachable : r.Reachable
  get?_iff : ∀ name hd, r.get? name = some hd ↔ ∃ k, Standing id uses h name hd k
  ordered : r.names.Pairwise (BoundBefore id uses h)

theorem recorded_nil {exportName : Value} (empty : h.Holds id { exportName := exportName }) :
    Recorded id [] h { exportName := exportName } where
  holds := empty
  reachable := .empty exportName
  get?_iff name hd := by
    constructor
    · intro bound
      cases bound
    · rintro ⟨k, standing⟩
      exact absurd standing.lt_length (Nat.not_lt_zero k)
  ordered := List.Pairwise.nil

namespace Recorded

variable {r s : Registry} (recorded : Recorded id uses h r)

include recorded

theorem not_standing (unbound : r.get? name = none) : ¬ Standing id uses h name hd k := by
  intro standing
  rw [(recorded.get?_iff name hd).mpr ⟨k, standing⟩] at unbound
  cases unbound

/-- A name is unbound just where asking for it tells so. -/
theorem lookUp_iff : lookUp (.registry id) name (h.afterUses id uses) =
    .ok (none, false) (h.afterUses id uses) ↔ r.get? name = none := by
  rw [lookUp_run recorded.holds]
  constructor
  · intro told
    exact (Prod.mk.inj (EStateM.Result.ok.inj told).1).1
  · intro unbound
    rw [Registry.contains, unbound]
    rfl

/-- Where the use binds nothing and takes nothing, the bindings stand that stood. -/
theorem append_keeps {use : RegistryUse} (holds : (h.afterUses id (uses ++ [use])).Holds id s)
    (reachable : s.Reachable) (same : s.bindings = r.bindings)
    (given : ∀ name hd, use.Gives id (h.afterUses id uses) name hd → r.get? name = some hd)
    (left : ∀ name, ¬ use.TakesAway id (h.afterUses id uses) name) :
    Recorded id (uses ++ [use]) h s := by
  have stands (name : MetricName) (hd : Handle) (k : Nat) :
      Standing id (uses ++ [use]) h name hd k ↔ Standing id uses h name hd k := by
    rw [standing_append_iff, recorded.lookUp_iff]
    constructor
    · rintro (⟨standing, -⟩ | ⟨-, gave, unbound⟩)
      · exact standing
      · rw [given name hd gave] at unbound
        cases unbound
    · intro standing
      exact Or.inl ⟨standing, left name⟩
  refine ⟨holds, reachable, fun name hd => ?_, ?_⟩
  · simp only [stands]
    rw [← recorded.get?_iff, Registry.get?, Registry.get?, same]
  · rw [Registry.names, same]
    refine recorded.ordered.imp fun before ha hb i k first second => ?_
    exact before ha hb i k ((stands _ _ _).mp first) ((stands _ _ _).mp second)

/-- A name that is bound comes last. -/
theorem append_binds {use : RegistryUse} (holds : (h.afterUses id (uses ++ [use])).Holds id s)
    (reachable : s.Reachable) (unbound : r.get? name = none)
    (bound : s.bindings = r.bindings.insert name hd)
    (given : ∀ other hd', use.Gives id (h.afterUses id uses) other hd' ↔ other = name ∧ hd' = hd)
    (left : ∀ other, ¬ use.TakesAway id (h.afterUses id uses) other) :
    Recorded id (uses ++ [use]) h s := by
  have stands (other : MetricName) (hd' : Handle) (k : Nat) :
      Standing id (uses ++ [use]) h other hd' k ↔
        Standing id uses h other hd' k ∨ (k = uses.length ∧ other = name ∧ hd' = hd) := by
    rw [standing_append_iff, recorded.lookUp_iff, given]
    constructor
    · rintro (⟨standing, -⟩ | ⟨last, gave, -⟩)
      · exact Or.inl standing
      · exact Or.inr ⟨last, gave⟩
    · rintro (standing | ⟨last, rfl, rfl⟩)
      · exact Or.inl ⟨standing, left other⟩
      · exact Or.inr ⟨last, ⟨rfl, rfl⟩, unbound⟩
  have listed : s.names = r.names ++ [name] := by
    rw [Registry.names, bound]
    exact OrderedMap.keys_insert_of_not_mem (OrderedMap.get?_eq_none_iff.mp unbound)
  refine ⟨holds, reachable, fun other hd' => ?_, ?_⟩
  · simp only [stands]
    rw [Registry.get?, bound, OrderedMap.get?_insert]
    by_cases same : name = other
    · subst same
      rw [if_pos rfl, Option.some.injEq]
      constructor
      · rintro rfl
        exact ⟨uses.length, Or.inr ⟨rfl, rfl, rfl⟩⟩
      · rintro ⟨k, standing | ⟨-, -, same⟩⟩
        · exact absurd standing (recorded.not_standing unbound)
        · exact same.symm
    · rw [if_neg same]
      refine (recorded.get?_iff other hd').trans (exists_congr fun k => ?_)
      constructor
      · exact Or.inl
      · rintro (standing | ⟨-, rfl, -⟩)
        · exact standing
        · exact absurd rfl same
  · rw [listed]
    refine List.pairwise_append.mpr ⟨?_, List.pairwise_singleton _ _, ?_⟩
    · -- the names that were bound are none of them the new one
      refine List.Pairwise.imp_of_mem (fun {a b} in_a in_b before ha hb i k first second => ?_)
        recorded.ordered
      have old {c : MetricName} (mem : c ∈ r.names) : c ≠ name := by
        rintro rfl
        exact OrderedMap.get?_eq_none_iff.mp unbound mem
      obtain first | ⟨-, rfl, -⟩ := (stands a ha i).mp first
      · obtain second | ⟨-, rfl, -⟩ := (stands b hb k).mp second
        · exact before ha hb i k first second
        · exact absurd rfl (old in_b)
      · exact absurd rfl (old in_a)
    · intro a in_a b in_b ha hb i k first second
      obtain rfl := List.mem_singleton.mp in_b
      have other : a ≠ b := by
        rintro rfl
        exact OrderedMap.get?_eq_none_iff.mp unbound in_a
      obtain first | ⟨-, same, -⟩ := (stands a ha i).mp first
      · obtain second | ⟨rfl, -, -⟩ := (stands b hb k).mp second
        · exact absurd second (recorded.not_standing unbound)
        · exact first.lt_length
      · exact absurd same other

/-- A name that is taken away leaves the others as they were. -/
theorem append_takes {use : RegistryUse} (holds : (h.afterUses id (uses ++ [use])).Holds id s)
    (reachable : s.Reachable) (gone : s.bindings = r.bindings.erase name)
    (given : ∀ other hd, ¬ use.Gives id (h.afterUses id uses) other hd)
    (taken : ∀ other, use.TakesAway id (h.afterUses id uses) other ↔ other = name) :
    Recorded id (uses ++ [use]) h s := by
  have stands (other : MetricName) (hd : Handle) (k : Nat) :
      Standing id (uses ++ [use]) h other hd k ↔ Standing id uses h other hd k ∧ other ≠ name := by
    rw [standing_append_iff, taken]
    constructor
    · rintro (standing | ⟨-, gave, -⟩)
      · exact standing
      · exact absurd gave (given other hd)
    · exact Or.inl
  refine ⟨holds, reachable, fun other hd => ?_, ?_⟩
  · simp only [stands]
    rw [Registry.get?, gone, OrderedMap.get?_erase]
    by_cases same : name = other
    · subst same
      simp
    · rw [if_neg same]
      refine (recorded.get?_iff other hd).trans (exists_congr fun k => ?_)
      exact (and_iff_left (Ne.symm same)).symm
  · rw [Registry.names, gone, OrderedMap.keys_erase recorded.reachable.exact.names_nodup]
    refine (recorded.ordered.filter _).imp fun before ha hb i k first second => ?_
    exact before ha hb i k ((stands _ _ _).mp first).1 ((stands _ _ _).mp second).1

end Recorded

/-- What a run says is what the registry holds. -/
theorem recorded_after {exportName : Value} (empty : h.Holds id { exportName := exportName })
    (uses : List RegistryUse) : ∃ r, Recorded id uses h r := by
  induction uses using List.reverseRecOn with
  | nil => exact ⟨_, recorded_nil empty⟩
  | append_singleton uses use ih =>
    obtain ⟨r, recorded⟩ := ih
    obtain ⟨s, holds, reachable, turn⟩ := use.turn recorded.holds recorded.reachable
    rw [← afterUses_append] at holds
    refine ⟨s, ?_⟩
    cases turn with
    | keeps same given left => exact recorded.append_keeps holds reachable same given left
    | binds name hd unbound bound given left =>
      exact recorded.append_binds holds reachable unbound bound given left
    | takes name gone given taken => exact recorded.append_takes holds reachable gone given taken

/-! ## What the calls give -/

/-- Every call for the name gives this instrument, if it goes through. -/
structure AlwaysGives (h : Host) (id : Nat) (name : MetricName) (hd : Handle) : Prop where
  lookUp : lookUp (.registry id) name h = .ok (some hd, true) h
  register : ∀ offer hd' h', register id name offer h = .ok hd' h' → hd' = hd
  counter : ∀ hd' h', counter id name h = .ok hd' h' → hd' = hd
  histogram : ∀ biased hd' h', histogram id name biased h = .ok hd' h' → hd' = hd

/-- These are the names that a registry tells, however it is asked. -/
structure Tells (h : Host) (id : Nat) (names : List MetricName) : Prop where
  all : namesIn id .none h = .ok names h
  ofScope : ∀ scope, namesIn id (.str scope) h = .ok (names.filter (·.scope = scope)) h
  size : (Item.registry id).size h = .ok names.length h
  isBound : ∀ name, isBound (.registry id) name h = .ok (decide (name ∈ names)) h
  unbound : ∀ name, name ∉ names → lookUp (.registry id) name h = .ok (none, false) h

variable {r : Registry}

/-- What a decided registration gives is what the decision bound. -/
theorem settled_ok {g h' : Host} {decided : Except RegistrationError Registration}
    (ok : settled id name decided g = .ok hd h') : ∃ reg, decided = .ok reg ∧ reg.bound = hd := by
  cases decided with
  | error e => cases ok
  | ok reg => exact ⟨reg, rfl, (EStateM.Result.ok.inj ok).1⟩

theorem kind_of_counter (holds : h.Holds id r) {h' : Host} (ok : counter id name h = .ok hd h') :
    hd.kind = .counter := by
  rw [counter_run holds] at ok
  obtain ⟨reg, decided, rfl⟩ := settled_ok ok
  exact Registry.kind_of_obtain decided

theorem kind_of_histogram (holds : h.Holds id r) {biased : Value} {h' : Host}
    (ok : histogram id name biased h = .ok hd h') : hd.kind = .histogram := by
  rw [histogram_run holds] at ok
  obtain ⟨reg, decided, rfl⟩ := settled_ok ok
  exact Registry.kind_of_obtain decided

/-- A bound name is never bound anew. -/
theorem alwaysGives_of_bound (holds : h.Holds id r) (bound : r.get? name = some hd) :
    h.AlwaysGives id name hd := by
  have same {reg : Registration}
      (outcome : (∃ held, r.get? name = some held ∧ reg = ⟨r, held, true⟩) ∨
        ∃ hd, r.get? name = none ∧ reg = ⟨r.bind name hd, hd, false⟩) : reg.bound = hd := by
    obtain ⟨held, found, rfl⟩ | ⟨other, unbound, -⟩ := outcome
    · rw [bound] at found
      exact (Option.some.inj found).symm
    · rw [bound] at unbound
      cases unbound
  constructor
  · rw [lookUp_run holds, Registry.contains, bound]
    rfl
  · intro offer hd' h' ok
    rw [register_run holds] at ok
    obtain ⟨reg, decided, rfl⟩ := settled_ok ok
    exact same (Registry.register_outcome decided)
  · intro hd' h' ok
    rw [counter_run holds] at ok
    obtain ⟨reg, decided, rfl⟩ := settled_ok ok
    exact same (Registry.obtain_outcome decided)
  · intro biased hd' h' ok
    rw [histogram_run holds] at ok
    obtain ⟨reg, decided, rfl⟩ := settled_ok ok
    exact same (Registry.obtain_outcome decided)

theorem tells_names (holds : h.Holds id r) : h.Tells id r.names := by
  have listed : r.namesIn .none = r.names := List.filter_eq_self.mpr fun _ _ => rfl
  have contained (name : MetricName) : r.contains name = decide (name ∈ r.names) := by
    rw [Bool.eq_iff_iff, decide_eq_true_iff]
    exact OrderedMap.contains_iff
  constructor
  · rw [namesIn_run holds, listed]
  · intro scope
    exact namesIn_run holds (.str scope)
  · exact size_run holds
  · intro name
    rw [isBound_run holds, contained]
  · intro name absent
    have unbound : r.get? name = none := OrderedMap.get?_eq_none_iff.mpr absent
    rw [lookUp_run holds, contained, unbound, decide_eq_false absent]

/-- After every run of a registry that started empty: a binding that stands is what every call for
its name gives, if the call goes through; counters are asked for counters only and histograms for
histograms; and the names that the registry tells are those whose binding stands, each once, in the
order in which these bindings were made. -/
theorem bindings_stand (h : Host) (id : Nat) (exportName : Value)
    (empty : h.Holds id { exportName := exportName }) (uses : List RegistryUse) :
    (∀ name hd k, Standing id uses h name hd k → (h.afterUses id uses).AlwaysGives id name hd) ∧
      (∀ name hd h', counter id name (h.afterUses id uses) = .ok hd h' → hd.kind = .counter) ∧
      (∀ name biased hd h', histogram id name biased (h.afterUses id uses) = .ok hd h' →
        hd.kind = .histogram) ∧
      ∃ names, (h.afterUses id uses).Tells id names ∧ names.Nodup ∧
        (∀ name, name ∈ names ↔ ∃ hd k, Standing id uses h name hd k) ∧
        names.Pairwise (BoundBefore id uses h) := by
  obtain ⟨r, recorded⟩ := recorded_after empty uses
  have holds := recorded.holds
  refine ⟨fun name hd k standing => ?_, fun name hd h' => kind_of_counter holds,
    fun name biased hd h' => kind_of_histogram holds, r.names, tells_names holds,
    recorded.reachable.exact.names_nodup, fun name => ?_, recorded.ordered⟩
  · exact alwaysGives_of_bound holds ((recorded.get?_iff name hd).mpr ⟨k, standing⟩)
  · exact OrderedMap.mem_keys_iff.trans (exists_congr fun hd => recorded.get?_iff name hd)

/-- A run in which a name is bound, asked for, unbound and bound to something else. -/
def rebindings : List RegistryUse :=
  [.change (.counter (TableScope.all.name "DbSeek")), .get (TableScope.all.name "DbSeek"),
    .change (.remove (TableScope.all.name "DbSeek")),
    .change (.histogram (TableScope.all.name "DbSeek") (.bool false))]

/-- The histogram is the second instrument that was made, and it was bound last. -/
theorem rebindings_standing : Standing 0 rebindings (started (.str "db"))
    (TableScope.all.name "DbSeek") ⟨1, .histogram⟩ 3 where
  unbound := rfl
  given := ⟨_, rfl, rfl, _, rfl⟩
  kept i use later at_i := by
    have inside : i < 4 := (List.getElem?_eq_some_iff.mp at_i).1
    omega

theorem bindings_stand_rebindings :
    (started (.str "db")).Holds 0 { exportName := .str "db" } ∧
      ((started (.str "db")).afterUses 0 rebindings).AlwaysGives 0 (TableScope.all.name "DbSeek")
        ⟨1, .histogram⟩ :=
  ⟨started_holds _,
    (bindings_stand _ 0 _ (started_holds _) rebindings).1 _ _ _ rebindings_standing⟩

end Host

end StorageMetrics
