import StorageMetrics.Proofs.Exposition.Assembly
import StorageMetrics.Proofs.Host.LookUps
import StorageMetrics.Proofs.Host.Reads
import StorageMetrics.Proofs.Host.Refusal

/-
  Scrapes of a registry that nobody meddled with. Its members are read in order, and a scrape gives
  out what they assemble to. It comes to its end whatever the reads give, but for a counter whose
  family would be left without a name, for which the export name has to be empty
  (`Host.scrape_exposes`).
-/

namespace StorageMetrics

open StorageMetrics.Action

/-- Whatever a snapshot tells makes a summary. -/
theorem Reading.ofSnapshot_series {s : Option Snapshot} {reading : Reading}
    (told : Reading.ofSnapshot s = .ok reading) : reading.series = .summary := by
  unfold ofSnapshot at told
  split at told
  · cases told
  · split at told
    · cases told
      rfl
    · cases told

namespace Host

/-! ## What an instrument can report -/

/-- Only what is known can be read. -/
theorem exists_of_getInstrument {h h' : Host} {hd : Handle} {i : Instrument}
    (ran : getInstrument hd h = .ok i h') : h.instruments[hd.id]? = some i ∧ h' = h := by
  rw [getInstrument, bind_of_ok (get_run h)] at ran
  cases found : h.instruments[hd.id]? with
  | none => rw [found] at ran; cases ran
  | some j => rw [found] at ran; cases ran; exact ⟨rfl, rfl⟩

/-- The type of series that is made of what an instrument shows. -/
def Glance.series : Glance → SeriesType
  | value _ => .gauge
  | histogram _ => .histogram
  | snapshot _ => .summary
  | count _ => .counter

theorem glance_series {h h' : Host} {hd : Handle} {i : Instrument} {shown : Glance}
    (found : h.instruments[hd.id]? = some i) (ran : glance hd h = .ok shown h') :
    shown.series = i.kind.series := by
  rw [glance, bind_of_ok (getInstrument_run found)] at ran
  cases i with
  | gauge query guard =>
    obtain ⟨v, _, -, ran⟩ := ok_of_bind ran
    cases ran
    rfl
  | counter _ | statsCounter _ _ | histogram _ | statsHistogram _ _ =>
    obtain ⟨_, _, -, ran⟩ := ok_of_bind ran
    obtain ⟨_, _, -, ran⟩ := ok_of_bind ran
    cases ran
    rfl

/-- A reading makes the series of its instrument. -/
theorem read_series {h h' : Host} {hd : Handle} {reading : Reading}
    (ran : read hd h = .ok reading h') :
    ∃ i, h.instruments[hd.id]? = some i ∧ reading.series = i.kind.series := by
  obtain ⟨i, g, looked, ran⟩ := ok_of_bind ran
  obtain ⟨found, rfl⟩ := exists_of_getInstrument looked
  refine ⟨i, found, ?_⟩
  cases i
  case histogram contents =>
    obtain ⟨_, _, -, ran⟩ := ok_of_bind ran
    obtain ⟨_, _, -, ran⟩ := ok_of_bind ran
    cases ran
    rfl
  all_goals
    obtain ⟨shown, _, glanced, ran⟩ := ok_of_bind ran
    rw [← glance_series found glanced]
    cases shown with
    | value v =>
      obtain ⟨x, _, -, ran⟩ := ok_of_bind ran
      cases ran
      rfl
    | count n => cases ran; rfl
    | histogram contents => cases ran; rfl
    | snapshot s => exact Reading.ofSnapshot_series (ok_of_ofExcept ran)

/-! ## Registries as scrapes find them -/

/-- The host has this registry under the number, and nobody meddled with it or with its collector. -/
structure Presents (h : Host) (id : Nat) (r : Registry) : Prop extends h.Holds id r where
  collector_unmarked : ∀ m ∈ h.marks, m.item.same (.collector id) = false
  /-- What is bound is of the kind that it is known as. -/
  kinds_eq : ∀ name hd, r.bindings.get? name = some hd →
    ∀ i, h.instruments[hd.id]? = some i → i.kind = hd.kind

variable {h g : Host} {id : Nat} {r : Registry}

/-- Marks that are not of statistics show. -/
theorem unmarked_of_presented (same : g.presented = h.presented) {item : Item}
    (other : item.asStatistics = none) (unmarked : ∀ m ∈ h.marks, m.item.same item = false) :
    ∀ m ∈ g.marks, m.item.same item = false := by
  intro m mem
  cases counted : m.item.asStatistics.isNone with
  | false => exact Item.same_of_statistics counted other
  | true =>
    have shown : m ∈ g.presented.marks := List.mem_filter.mpr ⟨mem, counted⟩
    rw [same] at shown
    exact unmarked m (List.mem_filter.mp shown).1

theorem Intact.congr (intact : h.Intact) (same : g.presented = h.presented) : g.Intact := by
  intro m mem
  cases counted : m.item.asStatistics.isNone with
  | false => exact Item.isAsked_of_asStatistics counted
  | true =>
    have shown : m ∈ g.presented.marks := List.mem_filter.mpr ⟨mem, counted⟩
    rw [same] at shown
    exact intact m (List.mem_filter.mp shown).1

theorem Presents.congr (presents : h.Presents id r) (same : g.presented = h.presented) :
    g.Presents id r where
  held := by
    show (g.presented.registries[id]?).map (·.registry) = some r
    rw [same]
    exact presents.held
  unaltered := by
    obtain ⟨strays, marks⟩ := isAltered_eq_false_iff.mp presents.unaltered
    refine isAltered_eq_false_iff.mpr ⟨?_, unmarked_of_presented same rfl marks⟩
    show (g.presented.strays.any _) = false
    rw [same]
    exact strays
  collector_unmarked := unmarked_of_presented same rfl presents.collector_unmarked
  kinds_eq name hd bound i found := by
    have shown : g.presented.instruments[hd.id]? = some i := found
    rw [same] at shown
    exact presents.kinds_eq name hd bound i shown

/-- Where nothing at all is marked, no collector is. -/
theorem Holds.presents (holds : h.Holds id r) (unmarked : h.marks = [])
    (kinds : ∀ name hd, r.bindings.get? name = some hd →
      ∀ i : Instrument, h.instruments[hd.id]? = some i → i.kind = hd.kind) : h.Presents id r where
  toHolds := holds
  collector_unmarked := by
    rw [unmarked]
    exact List.forall_mem_nil _
  kinds_eq := kinds

/-! ## Preparations -/

theorem Holds.requireFamilies_run (holds : h.Holds id r)
    (unmarked : ∀ m ∈ h.marks, m.item.same (.collector id) = false) :
    requireFamilies id h = .ok () h := by
  rw [requireFamilies, bind_of_ok (Item.requireUnmarked_run (mark?_of_unmarked unmarked _)),
    bind_of_ok (requireOwn_run _ (mark?_of_unmarked unmarked _)),
    bind_of_ok (Item.requireUnmarked_run (holds.mark?_registry _))]
  exact holds.requireBindings_run _ _

/-! ## Members in order -/

/-- Reads a member and reports what went wrong with it. -/
def readReported (id : Nat) (name : MetricName) (h : Handle) : Action Member := do
  let outcome ← (readMember id name h).outcome
  match outcome with
  | .error e => Action.report (readFailedEntry name e)
  | .ok (_, reading) =>
    match reading.fault? with
    | some e => Action.report (readFailedEntry name e)
    | none => pure ()
  return ⟨name, h, outcome.map (·.2)⟩

/-- Reads members one after the other. -/
def readMembers (id : Nat) : List (MetricName × Handle) → Action (List Member)
  | [] => return []
  | (name, h) :: rest => do
    let m ← readReported id name h
    return m :: (← readMembers id rest)

/-- A read that fails is reported. -/
theorem readReported_of_error {name : MetricName} {hd : Handle} {e : Fault}
    (ran : readMember id name hd h = .error e g) :
    readReported id name hd h =
      .ok ⟨name, hd, .error e⟩ { g with journal := g.journal ++ [readFailedEntry name e] } := by
  rw [readReported, bind_of_ok (outcome_of_error ran)]
  rfl

/-- So is one that fails when a part of it was given out. -/
theorem readReported_of_ok {name : MetricName} {hd : Handle} {table : String} {reading : Reading}
    (ran : readMember id name hd h = .ok (table, reading) g) :
    readReported id name hd h = .ok ⟨name, hd, .ok reading⟩
      { g with journal := g.journal ++ (reading.fault?.map (readFailedEntry name)).toList } := by
  rw [readReported, bind_of_ok (outcome_of_ok ran)]
  dsimp only
  cases reading.fault? with
  | some e => rfl
  | none =>
    simp only [Option.map_none, Option.toList_none, List.append_nil]
    rfl

theorem readReported_leaves (id : Nat) (name : MetricName) (hd : Handle) :
    Leaves presented (readReported id name hd) := by
  refine .bind (readMember_leaves id name hd).presented.outcome fun outcome => ?_
  split
  · exact .bind (.modify fun _ => rfl) fun _ => .pure _
  · split
    · exact .bind (.modify fun _ => rfl) fun _ => .pure _
    · exact .pure _

/-- What is read of a member is of its table, and makes the series that it is known by. -/
theorem readMember_ok (presents : h.Presents id r) {name : MetricName} {hd : Handle}
    (bound : r.bindings.get? name = some hd) {h' : Host} {table : String} {reading : Reading}
    (ran : readMember id name hd h = .ok (table, reading) h') :
    name.table? = some table ∧ reading.series = hd.kind.series := by
  rw [readMember, bind_of_ok (Item.requireUnmarked_run (presents.mark?_registry _))] at ran
  cases located : name.table? with
  | none => rw [located] at ran; cases ran
  | some own =>
    rw [located] at ran
    obtain ⟨told, g, wasRead, ran⟩ := ok_of_bind ran
    cases ran
    obtain ⟨i, found, series⟩ := read_series wasRead
    exact ⟨rfl, series.trans (congrArg _ (presents.kinds_eq name hd bound i found))⟩

/-- A condition under which something more is asked for, which is there. -/
theorem ite_bind_run {c : Prop} [Decidable c] {check : Action Unit} (ran : check h = .ok () h)
    (rest : Unit → Action α) : (if c then check >>= rest else rest ()) h = rest () h := by
  split
  · rw [bind_of_ok ran]
  · rfl

/-- What becomes of a member of a registry that nobody meddled with. -/
theorem Holds.scrapeMember_eq (holds : h.Holds id r) (t : FamilyTable) (name : MetricName)
    (hd : Handle) :
    scrapeMember id t name hd h = (do
      let u ← Action.ofExcept (t.ensure (r.family name.name) hd.kind.series name.name)
      match ← (readMember id name hd).outcome with
      | .error e =>
        Action.report (readFailedEntry name e)
        return u
      | .ok (table, reading) =>
        match reading.fault? with
        | some e => Action.report (readFailedEntry name e)
        | none => pure ()
        return u.addReading (r.family name.name) name.keyspace table name.name reading) h := by
  obtain ⟨a, found, rfl⟩ := holds.exists_attached
  have unmarked (part : String) := Item.requireUnmarked_run (holds.mark?_registry part)
  rw [scrapeMember, bind_of_ok (unmarked _), bind_of_ok (getRegistry_run found)]
  exact ite_bind_run (unmarked _) _

/-- A member that has a family to go to is read and added, whatever came of the read. -/
theorem scrapeMember_run (presents : h.Presents id r) {name : MetricName} {hd : Handle}
    (bound : r.bindings.get? name = some hd) (named : ¬ r.Nameless name hd) (t : FamilyTable) :
    ∃ m h' u, readReported id name hd h = .ok m h' ∧ m.binding = (name, hd) ∧
      (∀ reading, m.outcome = .ok reading → reading.series = hd.kind.series) ∧
      r.addMember t m = .ok u ∧ scrapeMember id t name hd h = .ok u h' := by
  have ensured (m : Member) (same : m.binding = (name, hd)) :
      ∃ u, t.ensure (r.key m) m.handle.kind.series m.name.name = .ok u ∧
        Action.ofExcept (t.ensure (r.family name.name) hd.kind.series name.name) h =
          .ok u h := by
    obtain ⟨rfl, rfl⟩ := Prod.mk.inj same
    obtain ⟨u, made, -⟩ := Registry.ensure_ok named t
    exact ⟨u, made, congrArg (fun x => Action.ofExcept x h) made⟩
  rw [presents.scrapeMember_eq]
  cases ran : readMember id name hd h with
  | error e g =>
    obtain ⟨u, here, made⟩ := ensured ⟨name, hd, .error e⟩ rfl
    refine ⟨_, _, _, readReported_of_error ran, rfl, fun reading told => ?_,
      Registry.addMember_of_ensured here, ?_⟩
    · cases told
    · rw [bind_of_ok made, bind_of_ok (outcome_of_error ran), Member.located?_error]
      rfl
  | ok told g =>
    obtain ⟨table, reading⟩ := told
    obtain ⟨located, series⟩ := readMember_ok presents bound ran
    obtain ⟨u, here, made⟩ := ensured ⟨name, hd, .ok reading⟩ rfl
    have fits : ∀ other, (⟨name, hd, .ok reading⟩ : Member).outcome = .ok other →
        other.series = hd.kind.series := by
      rintro _ ⟨⟩
      exact series
    refine ⟨_, _, _, readReported_of_ok ran, rfl, fits, Registry.addMember_of_ensured here, ?_⟩
    rw [bind_of_ok made, bind_of_ok (outcome_of_ok ran), Member.located?_ok located]
    dsimp only
    cases reading.fault? with
    | some e => rfl
    | none =>
      simp only [Option.map_none, Option.toList_none, List.append_nil]
      rfl

theorem scrapeMember_nameless (presents : h.Presents id r) {name : MetricName} {hd : Handle}
    (nameless : r.Nameless name hd) {t : FamilyTable} (absent : t.get? "_total" = none) :
    scrapeMember id t name hd h = .error .emptyFamilyName h := by
  have refused : Action.ofExcept (t.ensure (r.family name.name) hd.kind.series name.name) h =
      .error .emptyFamilyName h := by
    rw [nameless.1, nameless.2, FamilyTable.ensure, OrderedMap.contains, absent, if_neg (by simp),
      Family.ofMember_total]
    rfl
  rw [presents.scrapeMember_eq]
  exact bind_of_error refused _

/-- Reading a member that has a family to go to adds it to those that were read before. -/
theorem scrapeMember_adds (presents : h.Presents id r) {name : MetricName} {hd : Handle}
    (bound : r.bindings.get? name = some hd) (named : ¬ r.Nameless name hd) {done : List Member}
    {t : FamilyTable} (before : r.Assembled done t) :
    ∃ m h' u, readReported id name hd h = .ok m h' ∧ m.binding = (name, hd) ∧
      (∀ reading, m.outcome = .ok reading → reading.series = hd.kind.series) ∧
      r.addMember t m = .ok u ∧ r.Assembled (done ++ [m]) u ∧ h'.Presents id r ∧
      scrapeMember id t name hd h = .ok u h' := by
  obtain ⟨m, h', u, wasRead, same, fits, added, scraped⟩ := scrapeMember_run presents bound named t
  have after := readReported_leaves id name hd h
  rw [after_of_ok wasRead] at after
  obtain ⟨rfl, rfl⟩ := Prod.mk.inj same
  obtain ⟨v, alsoAdded, puts⟩ := Registry.addMember_ok named t
  obtain rfl := Except.ok.inj (added.symm.trans alsoAdded)
  exact ⟨m, h', u, wasRead, same, fits, added, before.add puts, presents.congr after, scraped⟩

/-- Members that all have a family to go to are read in order, and then they are assembled. -/
theorem scrapeMembers_run (presents : h.Presents id r) {entries : List (MetricName × Handle)}
    (bound : ∀ b ∈ entries, r.bindings.get? b.1 = some b.2)
    (named : ∀ b ∈ entries, ¬ r.Nameless b.1 b.2) {done : List Member} {t : FamilyTable}
    (before : r.Assembled done t) :
    ∃ ms h' u, readMembers id entries h = .ok ms h' ∧ ms.map Member.binding = entries ∧
      (∀ m ∈ ms, ∀ reading, m.outcome = .ok reading → reading.series = m.handle.kind.series) ∧
      r.assemble ms t = .ok u ∧ r.Assembled (done ++ ms) u ∧ h'.Presents id r ∧
      scrapeMembers id entries t h = .ok u h' := by
  induction entries generalizing h done t with
  | nil =>
    refine ⟨[], h, t, rfl, rfl, ?_, rfl, by rwa [List.append_nil], presents, rfl⟩
    intro m mem
    cases mem
  | cons b rest ih =>
    obtain ⟨name, hd⟩ := b
    obtain ⟨m, g, u, wasRead, same, fits, added, more, presentsRest, scraped⟩ :=
      scrapeMember_adds presents (bound _ List.mem_cons_self) (named _ List.mem_cons_self) before
    obtain ⟨ms, h', w, wereRead, sameRest, fitsRest, assembled, whole, presents', scrapedRest⟩ :=
      ih presentsRest (fun b mem => bound b (List.mem_cons_of_mem _ mem))
        (fun b mem => named b (List.mem_cons_of_mem _ mem)) more
    obtain ⟨rfl, rfl⟩ := Prod.mk.inj same
    refine ⟨m :: ms, h', w, ?_, ?_, ?_, ?_, by rwa [List.append_cons], presents', ?_⟩
    · rw [readMembers, bind_of_ok wasRead, bind_of_ok wereRead]
      rfl
    · rw [List.map_cons, sameRest]
      rfl
    · intro n mem
      obtain rfl | mem := List.mem_cons.mp mem
      · exact fits
      · exact fitsRest n mem
    · rw [Registry.assemble, added]
      exact assembled
    · rw [scrapeMembers, bind_of_ok scraped]
      exact scrapedRest

/-- The first member without a family to go to ends the scrape. The members before it are named, so
that none of them has made a family of its key. -/
theorem scrapeMembers_nameless (presents : h.Presents id r) (exact : r.Exact)
    {entries : List (MetricName × Handle)}
    (bound : ∀ b ∈ entries, r.bindings.get? b.1 = some b.2)
    (nameless : ∃ b ∈ entries, r.Nameless b.1 b.2) {done : List Member} {t : FamilyTable}
    (before : r.Assembled done t)
    (doneBound : ∀ m ∈ done, r.bindings.get? m.name = some m.handle)
    (doneNamed : ∀ m ∈ done, ¬ r.Nameless m.name m.handle) :
    ∃ h', scrapeMembers id entries t h = .error .emptyFamilyName h' := by
  induction entries generalizing h done t with
  | nil =>
    obtain ⟨b, mem, -⟩ := nameless
    cases mem
  | cons b rest ih =>
    obtain ⟨name, hd⟩ := b
    have here := bound _ List.mem_cons_self
    by_cases first : r.Nameless name hd
    · have absent : t.get? "_total" = none := by
        rw [OrderedMap.get?_eq_none_iff, before.mem_keys_iff]
        rintro ⟨m, mem, same⟩
        have shapes := exact.shape_eq_of_family_eq (doneBound m mem) here (same.trans first.2.symm)
        exact doneNamed m mem ⟨(congrArg Shape.series shapes).trans first.1, same⟩
      refine ⟨h, ?_⟩
      rw [scrapeMembers]
      exact bind_of_error (scrapeMember_nameless presents first absent) _
    · obtain ⟨m, g, u, -, same, -, -, more, presentsRest, scraped⟩ :=
        scrapeMember_adds presents here first before
      obtain ⟨rfl, rfl⟩ := Prod.mk.inj same
      have left : ∃ b ∈ rest, r.Nameless b.1 b.2 := by
        obtain ⟨b, mem, without⟩ := nameless
        obtain rfl | mem := List.mem_cons.mp mem
        · exact absurd without first
        · exact ⟨b, mem, without⟩
      obtain ⟨h', failed⟩ := ih presentsRest
        (fun b mem => bound b (List.mem_cons_of_mem _ mem)) left more
        (List.forall_mem_append.mpr ⟨doneBound, by simpa using here⟩)
        (List.forall_mem_append.mpr ⟨doneNamed, by simpa using first⟩)
      refine ⟨h', ?_⟩
      rw [scrapeMembers, bind_of_ok scraped]
      exact failed

/-! ## Whole registries -/

section Whole

variable (holds : h.Holds id r) (unmarked : ∀ m ∈ h.marks, m.item.same (.collector id) = false)

include holds unmarked

theorem Holds.scrapeRegistry_of_members {t : FamilyTable} {h' : Host} (holds' : h'.Holds id r)
    (scraped : scrapeMembers id r.bindings.entries {} h = .ok t h') :
    scrapeRegistry id h = .ok t.values h' := by
  obtain ⟨a, found, rfl⟩ := holds.exists_attached
  rw [scrapeRegistry, bind_of_ok (holds.requireFamilies_run unmarked),
    bind_of_ok (Holds.getRegistry_run found), bind_of_ok (entriesAhead_run holds.unaltered _),
    bind_of_ok scraped, bind_of_ok (requireNames_run holds'.unaltered)]
  rfl

theorem Holds.scrapeRegistry_of_failed {e : Fault} {h' : Host}
    (failed : scrapeMembers id r.bindings.entries {} h = .error e h') :
    scrapeRegistry id h = .error e h' := by
  obtain ⟨a, found, rfl⟩ := holds.exists_attached
  rw [scrapeRegistry, bind_of_ok (holds.requireFamilies_run unmarked),
    bind_of_ok (Holds.getRegistry_run found), bind_of_ok (entriesAhead_run holds.unaltered _)]
  exact bind_of_error failed _

end Whole

theorem scrapeRegistry_of_members (presents : h.Presents id r) {t : FamilyTable} {h' : Host}
    (presents' : h'.Presents id r) (scraped : scrapeMembers id r.bindings.entries {} h = .ok t h') :
    scrapeRegistry id h = .ok t.values h' :=
  presents.toHolds.scrapeRegistry_of_members presents.collector_unmarked presents'.toHolds scraped

theorem scrapeRegistry_of_failed (presents : h.Presents id r) {e : Fault} {h' : Host}
    (failed : scrapeMembers id r.bindings.entries {} h = .error e h') :
    scrapeRegistry id h = .error e h' :=
  presents.toHolds.scrapeRegistry_of_failed presents.collector_unmarked failed

/-- A scrape of a reachable registry comes to its end whatever its reads give, and shows what the
members with these outcomes assemble to: one family for each key with a bound member, in the order
of the first members, and in it the samples that each member would give alone. For every assignment
of outcomes the assembly is like that. Only a counter whose family would be left without a name ends
a scrape, and the export name has to be empty for that. -/
theorem scrape_exposes (h : Host) (id : Nat) (r : Registry) (presents : h.Presents id r)
    (reachable : r.Reachable) :
    ((∃ b ∈ r.bindings.entries, r.Nameless b.1 b.2) →
      r.exportName.plain = "" ∧ ∃ h', scrapeRegistry id h = .error .emptyFamilyName h') ∧
    ((∀ b ∈ r.bindings.entries, ¬ r.Nameless b.1 b.2) →
      (∃ ms t h', readMembers id r.bindings.entries h = .ok ms h' ∧
        ms.map Member.binding = r.bindings.entries ∧ r.assemble ms {} = .ok t ∧ r.Exposes ms t ∧
        scrapeRegistry id h = .ok t.values h') ∧
      ∀ ms : List Member, ms.map Member.binding = r.bindings.entries →
        (∀ m ∈ ms, ∀ reading, m.outcome = .ok reading → reading.series = m.handle.kind.series) →
        ∃ t, r.assemble ms {} = .ok t ∧ r.Exposes ms t) := by
  have exact := reachable.exact
  have bound : ∀ b ∈ r.bindings.entries, r.bindings.get? b.1 = some b.2 := fun b mem =>
    (OrderedMap.get?_eq_some_iff_mem exact.names_nodup).mpr mem
  constructor
  · intro nameless
    have ⟨_, _, without⟩ := nameless
    refine ⟨without.exportName, ?_⟩
    obtain ⟨h', failed⟩ := scrapeMembers_nameless presents exact bound nameless
      Registry.assembled_nil (List.forall_mem_nil _) (List.forall_mem_nil _)
    exact ⟨h', scrapeRegistry_of_failed presents failed⟩
  · intro named
    have assembles (ms : List Member) (same : ms.map Member.binding = r.bindings.entries)
        (fits : ∀ m ∈ ms, ∀ reading, m.outcome = .ok reading →
          reading.series = m.handle.kind.series) :
        ∃ t, r.assemble ms {} = .ok t ∧ r.Exposes ms t := by
      refine Registry.assemble_exposes (exact.agree same) (fun m mem => ?_) fits
      exact named m.binding (same ▸ List.mem_map_of_mem mem)
    refine ⟨?_, assembles⟩
    obtain ⟨ms, h', t, wereRead, same, fits, assembled, -, presents', scraped⟩ :=
      scrapeMembers_run presents bound named Registry.assembled_nil
    obtain ⟨u, alsoAssembled, exposes⟩ := assembles ms same fits
    obtain rfl := Except.ok.inj (assembled.symm.trans alsoAssembled)
    exact ⟨ms, t, h', wereRead, same, assembled, exposes,
      scrapeRegistry_of_members presents presents' scraped⟩

theorem entries_oneCounter (exportName : Value) (name : MetricName) :
    (oneCounter exportName name).bindings.entries = [(name, ⟨0, .counter⟩)] :=
  OrderedMap.entries_insert_of_not_mem List.not_mem_nil

theorem counted_presents (exportName : Value) (name : MetricName) :
    (counted exportName name).Presents 0 (oneCounter exportName name) where
  toHolds := counted_holds exportName name
  collector_unmarked m mem := by
    obtain ⟨series, targets, journal, same⟩ := started_eq exportName
    rw [counted_eq, same] at mem
    cases mem
  kinds_eq other hd bound i found := by
    have entry := OrderedMap.mem_of_get? bound
    rw [entries_oneCounter] at entry
    cases List.mem_singleton.mp entry
    obtain ⟨series, targets, journal, same⟩ := started_eq exportName
    rw [counted_eq, same] at found
    cases found
    rfl

/-- With an empty export name a counter labelled `Total` leaves its family without a name. -/
theorem oneCounter_nameless :
    (oneCounter (.str "") (TableScope.all.name "Total")).Nameless (TableScope.all.name "Total")
      ⟨0, .counter⟩ :=
  ⟨rfl, by decide +kernel⟩

theorem scrape_of_nameless_counter :
    (counted (.str "") (TableScope.all.name "Total")).Presents 0
        (oneCounter (.str "") (TableScope.all.name "Total")) ∧
      (oneCounter (.str "") (TableScope.all.name "Total")).Reachable ∧
      ¬ ∃ families h', scrapeRegistry 0 (counted (.str "") (TableScope.all.name "Total")) =
        .ok families h' := by
  have presents := counted_presents (.str "") (TableScope.all.name "Total")
  have reachable := oneCounter_reachable (.str "") (TableScope.all.name "Total")
  refine ⟨presents, reachable, ?_⟩
  rintro ⟨families, h', ran⟩
  have bound : (TableScope.all.name "Total", (⟨0, .counter⟩ : Handle)) ∈
      (oneCounter (.str "") (TableScope.all.name "Total")).bindings.entries := by
    rw [entries_oneCounter]
    exact List.mem_cons_self
  obtain ⟨g, failed⟩ := scrapeMembers_nameless presents reachable.exact
    (fun b mem => (OrderedMap.get?_eq_some_iff_mem reachable.exact.names_nodup).mpr mem)
    ⟨_, bound, oneCounter_nameless⟩ Registry.assembled_nil (List.forall_mem_nil _)
    (List.forall_mem_nil _)
  rw [scrapeRegistry_of_failed presents failed] at ran
  cases ran

/-! ## Two levels of a table -/

def levelName (level : Nat) : MetricName := TableScope.all.name (Surface.levelLabel level)

def oneLevel : Registry := ({ exportName := .str "db" } : Registry).bind (levelName 0) ⟨0, .gauge⟩

def twoLevels : Registry := oneLevel.bind (levelName 1) ⟨1, .gauge⟩

theorem register_oneLevel :
    ({ exportName := .str "db" } : Registry).register (levelName 0) (.instrument ⟨0, .gauge⟩) =
      .ok ⟨oneLevel, ⟨0, .gauge⟩, false⟩ := rfl

/-- The levels share a family. -/
theorem register_twoLevels : oneLevel.register (levelName 1) (.instrument ⟨1, .gauge⟩) =
    .ok ⟨twoLevels, ⟨1, .gauge⟩, false⟩ := by
  have unbound : oneLevel.bindings.get? (levelName 1) = none := by decide +kernel
  have shared : (oneLevel.families.get? (oneLevel.family (levelName 1).name)).map (·.shape) =
      some (Registry.shapeOf (levelName 1).name .gauge) := by decide +kernel
  refine Registry.register_of_fits unbound fun entry found => ?_
  rw [found] at shared
  exact Option.some.inj shared

theorem twoLevels_reachable : twoLevels.Reachable :=
  .registered (.registered (.empty (.str "db")) register_oneLevel) register_twoLevels

theorem entries_twoLevels :
    twoLevels.bindings.entries = [(levelName 0, ⟨0, .gauge⟩), (levelName 1, ⟨1, .gauge⟩)] := by
  decide +kernel

/-- A first registry, and a gauge for each of two levels; the cell of the first gauge is not there. -/
def halfKnown : Host :=
  { started (.str "db") with
    cells := ⟨[("up", .ok (.int 7))]⟩
    instruments := #[.gauge (.cell "down") none, .gauge (.cell "up") none] }

/-- Both gauges are registered. -/
def halfDown : Host :=
  (register 0 (levelName 1) (.instrument ⟨1, .gauge⟩)).after
    ((register 0 (levelName 0) (.instrument ⟨0, .gauge⟩)).after halfKnown)

theorem halfKnown_holds : halfKnown.Holds 0 { exportName := .str "db" } := by
  obtain ⟨series, targets, journal, same⟩ := started_eq (.str "db")
  rw [halfKnown, same]
  exact ⟨rfl, rfl⟩

theorem halfDown_eq : halfDown = (halfKnown.rebind 0 oneLevel []).rebind 0 twoLevels [] := by
  have ran := register_run halfKnown_holds (levelName 0) (.instrument ⟨0, .gauge⟩)
  rw [register_oneLevel] at ran
  have ran' := register_run (halfKnown_holds.rebind oneLevel []) (levelName 1)
    (.instrument ⟨1, .gauge⟩)
  rw [register_twoLevels] at ran'
  rw [halfDown, after_of_ok ran]
  exact after_of_ok ran'

theorem halfDown_presents : halfDown.Presents 0 twoLevels := by
  rw [halfDown_eq]
  refine ((halfKnown_holds.rebind oneLevel []).rebind _ _).presents ?_ fun name hd bound i found => ?_
  · obtain ⟨series, targets, journal, same⟩ := started_eq (.str "db")
    show (started (.str "db")).marks = []
    rw [same]
  · have entry := OrderedMap.mem_of_get? bound
    rw [entries_twoLevels] at entry
    rcases List.mem_pair.mp entry with same | same <;> cases same <;> cases found <;> rfl

/-- Which of these members are read. -/
def wereRead (id : Nat) (entries : List (MetricName × Handle)) (h : Host) : List Bool :=
  match readMembers id entries h with
  | .ok ms _ => ms.map (·.outcome.isOk)
  | .error _ _ => []

/-- The labels of the samples that a registry shows, family by family. -/
def shownLabels (id : Nat) (h : Host) : List (List SampleLabels) :=
  match scrapeRegistry id h with
  | .ok families _ => families.map fun f => f.samples.map (·.labels)
  | .error _ _ => []

/-- Two levels share a family. The read of the one fails, and the family shows the other. -/
theorem scrape_exposes_halfDown :
    halfDown.Presents 0 twoLevels ∧ twoLevels.Reachable ∧
      (∀ b ∈ twoLevels.bindings.entries, ¬ twoLevels.Nameless b.1 b.2) ∧
      ∃ ms t h', ms.map Member.binding = twoLevels.bindings.entries ∧
        ms.map (·.outcome.isOk) = [false, true] ∧ twoLevels.Exposes ms t ∧
        scrapeRegistry 0 halfDown = .ok t.values h' ∧
        t.values.map (fun f => f.samples.map (·.labels)) =
          [[[("keyspace", "all"), ("scope", "all"), ("level", "1")]]] := by
  have named : ∀ b ∈ twoLevels.bindings.entries, ¬ twoLevels.Nameless b.1 b.2 :=
    fun b _ nameless => absurd (show "db" = "" from nameless.exportName) (by decide)
  obtain ⟨ms, t, h', read, bindings, -, exposes, scraped⟩ :=
    ((scrape_exposes _ 0 _ halfDown_presents twoLevels_reachable).2 named).1
  have reads : wereRead 0 twoLevels.bindings.entries halfDown = [false, true] := by
    rw [entries_twoLevels]
    decide +kernel
  have labels : shownLabels 0 halfDown =
      [[[("keyspace", "all"), ("scope", "all"), ("level", "1")]]] := by decide +kernel
  rw [wereRead, read] at reads
  rw [shownLabels, scraped] at labels
  exact ⟨halfDown_presents, twoLevels_reachable, named, ms, t, h', bindings, reads, exposes, scraped,
    labels⟩

end Host

end StorageMetrics
