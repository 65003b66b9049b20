import StorageMetrics.Proofs.Exposition.Overlap
import StorageMetrics.Proofs.Host.Scraping

/-
  Series that are there once. In the scrape of a registry no two samples have one name and one set
  of labels as long as no two bound names meet and no bound histogram has two bounds of one text
  (`scrape_repeats_no_series`). A registry does not look after that: it takes two spellings of one
  label for two names, and then their series are one (`scrape_repeats_respelled`).
-/

namespace StorageMetrics

open StorageMetrics.Action

namespace Host

variable {h : Host} {id : Nat} {r : Registry}

/-- No bound histogram has two bounds of one text. -/
def BoundsDistinct (h : Host) (r : Registry) : Prop :=
  ∀ name hd contents, r.bindings.get? name = some hd →
    h.instruments[hd.id]? = some (.histogram contents) →
    (contents.bounds.map Decimal.boundText).Nodup

/-- No two bound names can be given out as one series. -/
def NamesApart (r : Registry) : Prop :=
  ∀ name hd other hd', r.bindings.get? name = some hd → r.bindings.get? other = some hd' →
    r.Meets name hd.kind other hd'.kind → name = other

/-- A scrape that comes to its end shows what its members assemble to. -/
theorem members_of_scrape (presents : h.Presents id r) (exact : r.Exact) {families : List Family}
    {h' : Host} (scraped : scrapeRegistry id h = .ok families h') :
    ∃ ms t, readMembers id r.bindings.entries h = .ok ms h' ∧
      ms.map Member.binding = r.bindings.entries ∧ (∀ m ∈ ms, m.Fits) ∧ r.Assembled ms t ∧
      families = t.values := by
  have bound : ∀ b ∈ r.bindings.entries, r.bindings.get? b.1 = some b.2 :=
    fun b mem => exact.get?_of_mem mem
  have named : ∀ b ∈ r.bindings.entries, ¬ r.Nameless b.1 b.2 := by
    by_contra nameless
    push Not at nameless
    obtain ⟨g, failed⟩ := scrapeMembers_nameless presents exact bound nameless
      Registry.assembled_nil (List.forall_mem_nil _) (List.forall_mem_nil _)
    rw [scrapeRegistry_of_failed presents failed] at scraped
    cases scraped
  obtain ⟨ms, g, t, wereRead, bindings, fits, -, assembled, presents', ran⟩ :=
    scrapeMembers_run presents bound named Registry.assembled_nil
  rw [scrapeRegistry_of_members presents presents' ran] at scraped
  cases scraped
  exact ⟨ms, t, wereRead, bindings, fits, assembled, rfl⟩

/-- What is told of a member was read of its instrument. -/
theorem read_of_answer (unmarked : h.marks = []) {name : MetricName} {hd : Handle}
    {reading : Reading} (told : ((readMember id name hd).answer h).map (·.2) = .ok reading) :
    ∃ g, read hd h = .ok reading g := by
  cases located : name.table? with
  | none =>
    unfold answer at told
    rw [readMember_nowhere unmarked id located] at told
    cases told
  | some table =>
    rw [answer_readMember unmarked id located] at told
    unfold answer at told
    cases ran : read hd h with
    | error e g =>
      rw [ran] at told
      cases told
    | ok other g =>
      rw [ran] at told
      cases told
      exact ⟨g, rfl⟩

/-- What is read of the members does not repeat itself. -/
theorem distinct_of_read (unmarked : h.marks = []) (exact : r.Exact) (distinct : h.BoundsDistinct r)
    {ms : List Member} {h' : Host} (wereRead : readMembers id r.bindings.entries h = .ok ms h') :
    ∀ m ∈ ms, m.IsDistinct := by
  obtain ⟨ms', g, ran, -, bindings, outcomes⟩ :=
    readMembers_quiet unmarked id r.bindings.entries
  obtain ⟨rfl, rfl⟩ := EStateM.Result.ok.inj (wereRead.symm.trans ran)
  intro m mem reading told
  have listed : m.binding ∈ r.bindings.entries := bindings ▸ List.mem_map_of_mem mem
  have bound : r.bindings.get? m.name = some m.handle := exact.get?_of_mem listed
  obtain ⟨k, quiet, outcome⟩ := outcomes m mem
  rw [outcome] at told
  have unmarked' := quiet.marks_eq.trans unmarked
  obtain ⟨k', ran⟩ := read_of_answer unmarked' told
  obtain ⟨i, here, -⟩ := read_series ran
  obtain ⟨contents, rfl, rfl⟩ | ⟨other, usual⟩ := read_tells unmarked' here ran
  · rw [quiet.instruments_eq] at here
    exact distinct m.name m.handle contents bound here
  · cases reading with
    | gauge x => trivial
    | count n => trivial
    | distribution contents => exact absurd rfl (other contents)
    | summary count sum quantiles =>
      cases quantiles with
      | error e => trivial
      | ok qs =>
        have texts : qs.map (·.1) = ["0.5", "0.95", "0.99"] := usual
        show (qs.map (·.1)).Nodup
        rw [texts]
        decide

/-- In a scrape of a reachable registry no two samples have one name and one set of labels, whatever
comes of the reads, as long as no two bound names meet and no histogram repeats a bound. -/
theorem scrape_repeats_no_series (presents : h.Presents id r) (reachable : r.Reachable)
    (unmarked : h.marks = []) (distinct : h.BoundsDistinct r) (apart : NamesApart r)
    {families : List Family} {h' : Host} (scraped : scrapeRegistry id h = .ok families h') :
    (families.flatMap (·.samples)).Pairwise fun s s' =>
      ¬ (s.name = s'.name ∧ s.labels.Perm s'.labels) := by
  have exact := reachable.exact
  obtain ⟨ms, t, wereRead, bindings, fits, assembled, rfl⟩ :=
    members_of_scrape presents exact scraped
  have bound (m : Member) (mem : m ∈ ms) : r.bindings.get? m.name = some m.handle := by
    have listed : m.binding ∈ r.bindings.entries := bindings ▸ List.mem_map_of_mem mem
    exact exact.get?_of_mem listed
  have names : (ms.map (·.name)).Nodup := by
    have keys : ms.map (·.name) = r.names := by
      rw [Registry.names, OrderedMap.keys, ← bindings, List.map_map]
      rfl
    rw [keys]
    exact exact.names_nodup
  have perm := assembled.samples_perm (exact.agree bindings)
  refine pairwise_of_keys_nodup ?_ fun s mem => ?_
  · rw [(perm.map Sample.key).nodup_iff]
    refine Registry.samples_keys_nodup names fits (distinct_of_read unmarked exact distinct wereRead)
      fun m mem n mem' meets => ?_
    exact apart _ _ _ _ (bound m mem) (bound n mem') meets
  · obtain ⟨m, among, ofMember⟩ := List.mem_flatMap.mp (perm.mem_iff.mp mem)
    exact Member.inOrder_of_mem (fits m among) ofMember

/-! ## Counters of a first registry -/

/-- The first registry, of that export name, holds counters under some of these names, and nothing
else was made. -/
structure Counting (exportName : Value) (names : List MetricName) (h : Host) (r : Registry) :
    Prop where
  holds : h.Holds 0 r
  reachable : r.Reachable
  unmarked : h.marks = []
  exportName_eq : r.exportName = exportName
  counters : ∀ (k : Nat) (i : Instrument), h.instruments[k]? = some i →
    i.kind = InstrumentKind.counter
  bound : ∀ name hd, r.bindings.get? name = some hd → name ∈ names ∧ hd.kind = .counter

variable {exportName : Value} {names : List MetricName}

theorem counting_started (exportName : Value) (names : List MetricName) :
    Counting exportName names (started exportName) { exportName := exportName } := by
  obtain ⟨series, targets, journal, same⟩ := started_eq exportName
  refine ⟨started_holds exportName, .empty exportName, ?_, rfl, fun k i found => ?_,
    fun _ _ bound => ?_⟩
  · rw [same]
  · rw [same] at found
    cases found
  · cases bound

namespace Counting

theorem counter (counting : Counting exportName names h r) {name : MetricName}
    (mem : name ∈ names) :
    ∃ s, Counting exportName names (((RegistryCall.counter name).run 0).after h) s := by
  obtain ⟨s, reports, ran, reachable, same, bound⟩ :=
    RegistryCall.after_rebind counting.holds counting.reachable (.counter name)
  rw [ran]
  refine ⟨s, (counting.holds.withInstrument _).rebind s reports, reachable, counting.unmarked,
    same.trans counting.exportName_eq, fun k i found => ?_, fun other hd now => ?_⟩
  · have made : (h.withInstrument (.counter Counter.start)).instruments[k]? = some i := found
    rw [Host.withInstrument, Array.getElem?_push] at made
    split at made
    · cases made
      rfl
    · exact counting.counters k i made
  · obtain before | offers := bound other hd now
    · exact counting.bound other hd before
    · cases offers
      exact ⟨mem, rfl⟩

theorem presents (counting : Counting exportName names h r) : h.Presents 0 r := by
  refine counting.holds.presents counting.unmarked fun name hd bound i found => ?_
  rw [counting.counters _ i found, (counting.bound name hd bound).2]

theorem boundsDistinct (counting : Counting exportName names h r) : h.BoundsDistinct r := by
  intro name hd contents bound found
  have kind := counting.counters _ _ found
  cases kind

/-- Counters go apart where no two of the names have both their labels and their families equal. -/
theorem namesApart (counting : Counting exportName names h r)
    (apart : ∀ name ∈ names, ∀ other ∈ names, name.labels = other.labels →
      ({ exportName := exportName } : Registry).familyOf name .counter =
        ({ exportName := exportName } : Registry).familyOf other .counter → name = other) :
    NamesApart r := by
  intro name hd other hd' bound bound' meets
  obtain ⟨among, kind⟩ := counting.bound name hd bound
  obtain ⟨among', kind'⟩ := counting.bound other hd' bound'
  have families (kind : InstrumentKind) (name : MetricName) :
      ({ exportName := exportName } : Registry).familyOf name kind = r.familyOf name kind := by
    simp only [Registry.familyOf, Registry.family, counting.exportName_eq]
  refine apart name among other among' meets.labels_eq ?_
  rw [families, families]
  obtain ⟨o, outlet, o', outlet', same, -⟩ := meets.sampleName
  rw [kind] at outlet same
  rw [kind'] at outlet' same
  obtain rfl := List.mem_singleton.mp outlet
  obtain rfl := List.mem_singleton.mp outlet'
  exact (String.append_left_inj _).mp same

end Counting

/-- A first registry that was asked for these counters and nothing else. -/
def withCounters (exportName : Value) (names : List MetricName) : Host :=
  (started exportName).afterCalls 0 (names.map .counter)

theorem counting_withCounters (exportName : Value) (names : List MetricName) :
    ∃ r, Counting exportName names (withCounters exportName names) r := by
  have run (asked : List MetricName) (among : ∀ name ∈ asked, name ∈ names) {h : Host}
      {r : Registry} (counting : Counting exportName names h r) :
      ∃ s, Counting exportName names (h.afterCalls 0 (asked.map .counter)) s := by
    induction asked generalizing h r with
    | nil => exact ⟨r, counting⟩
    | cons name rest ih =>
      obtain ⟨s, counting⟩ := counting.counter (among name List.mem_cons_self)
      exact ih (fun other mem => among other (List.mem_cons_of_mem _ mem)) counting
  exact run names (fun _ => id) (counting_started exportName names)

/-- The keys of the samples that a registry shows. -/
def shownKeys (id : Nat) (h : Host) : Option (List SeriesKey) :=
  match scrapeRegistry id h with
  | .ok families _ => some ((families.flatMap (·.samples)).map Sample.key)
  | .error _ _ => none

theorem scraped_of_shownKeys {keys : List SeriesKey} (shown : shownKeys id h = some keys) :
    ∃ families h', scrapeRegistry id h = .ok families h' ∧
      (families.flatMap (·.samples)).map Sample.key = keys := by
  unfold shownKeys at shown
  cases ran : scrapeRegistry id h with
  | error e h' =>
    rw [ran] at shown
    cases shown
  | ok families h' =>
    rw [ran] at shown
    exact ⟨families, h', rfl, Option.some.inj shown⟩

/-- Two labels that differ in more than spelling. -/
def unlike : List MetricName := [TableScope.all.name "DbSeek", TableScope.all.name "DbNext"]

/-- Two spellings of one label. -/
def respelled : List MetricName := [TableScope.all.name "DbSeek", TableScope.all.name "db-seek"]

theorem shownKeys_unlike : shownKeys 0 (withCounters (.str "db") unlike) = some
    [("db_db_seek_total", [("keyspace", "all"), ("scope", "all")]),
      ("db_db_next_total", [("keyspace", "all"), ("scope", "all")])] := by
  decide +kernel

theorem shownKeys_respelled : shownKeys 0 (withCounters (.str "db") respelled) = some
    [("db_db_seek_total", [("keyspace", "all"), ("scope", "all")]),
      ("db_db_seek_total", [("keyspace", "all"), ("scope", "all")])] := by
  decide +kernel

theorem scrape_repeats_no_series_unlike :
    ∃ r families h', (withCounters (.str "db") unlike).Presents 0 r ∧ r.Reachable ∧
      (withCounters (.str "db") unlike).marks = [] ∧
      (withCounters (.str "db") unlike).BoundsDistinct r ∧ NamesApart r ∧
      scrapeRegistry 0 (withCounters (.str "db") unlike) = .ok families h' ∧
      (families.flatMap (·.samples)).map Sample.key =
        [("db_db_seek_total", [("keyspace", "all"), ("scope", "all")]),
          ("db_db_next_total", [("keyspace", "all"), ("scope", "all")])] ∧
      (families.flatMap (·.samples)).Pairwise fun s s' =>
        ¬ (s.name = s'.name ∧ s.labels.Perm s'.labels) := by
  obtain ⟨r, counting⟩ := counting_withCounters (.str "db") unlike
  have apart : NamesApart r := counting.namesApart (by decide +kernel)
  obtain ⟨families, h', scraped, keys⟩ := scraped_of_shownKeys shownKeys_unlike
  exact ⟨r, families, h', counting.presents, counting.reachable, counting.unmarked,
    counting.boundsDistinct, apart, scraped, keys,
    scrape_repeats_no_series counting.presents counting.reachable counting.unmarked
      counting.boundsDistinct apart scraped⟩

/-- Two spellings of one label are two names for a registry, and their series is given out
twice. -/
theorem scrape_repeats_respelled :
    ∃ r families h', (withCounters (.str "db") respelled).Presents 0 r ∧ r.Reachable ∧
      (withCounters (.str "db") respelled).marks = [] ∧
      (withCounters (.str "db") respelled).BoundsDistinct r ∧
      (∀ name hd, r.bindings.get? name = some hd → ∃ q : NameRequest, q.answer = .ok name) ∧
      scrapeRegistry 0 (withCounters (.str "db") respelled) = .ok families h' ∧
      ¬ (families.flatMap (·.samples)).Pairwise fun s s' =>
        ¬ (s.name = s'.name ∧ s.labels.Perm s'.labels) := by
  obtain ⟨r, counting⟩ := counting_withCounters (.str "db") respelled
  obtain ⟨families, h', scraped, keys⟩ := scraped_of_shownKeys shownKeys_respelled
  refine ⟨r, families, h', counting.presents, counting.reachable, counting.unmarked,
    counting.boundsDistinct, fun name hd bound => ?_, scraped, fun apart => ?_⟩
  · have plain : ∀ label ∈ ["DbSeek", "db-seek"],
        label ≠ "" ∧ (label.toList.all fun c => !isReserved c) = true := by
      decide +kernel
    obtain ⟨label, mem, rfl⟩ : ∃ label ∈ ["DbSeek", "db-seek"],
        name = TableScope.all.name label := by
      have among := (counting.bound name hd bound).1
      simpa [respelled] using among
    obtain ⟨present, free⟩ := plain label mem
    have spelled : IsNamePart label := TableScope.isNamePart_of_all present free
    exact ⟨_, NameRequest.answer_eq_ok_iff.mpr ⟨TableScope.all, label, none, spelled, rfl, rfl⟩⟩
  · have differ : ((families.flatMap (·.samples)).map Sample.key).Nodup := by
      refine List.pairwise_map.mpr (apart.imp fun unlike same => ?_)
      obtain ⟨names, labels⟩ := Prod.mk.inj same
      exact unlike ⟨names, labels ▸ .refl _⟩
    rw [keys] at differ
    exact absurd differ (by decide)

end Host

end StorageMetrics
