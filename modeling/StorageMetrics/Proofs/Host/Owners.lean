import StorageMetrics.Proofs.Host.Founding
import StorageMetrics.Proofs.Host.Scraping

/-
  What goes on between the uses of a registry. Owners increment their counters and take values into
  their histograms, transfers are noted, gauges are polled, and targets scraped. Whatever comes of it,
  it spares the registry: checks change nothing where nothing is marked (`Action.Checks`), and a
  write replaces one instrument by what its owner makes of it (`Write.spares`). So the registry serves
  its surfaces as before (`Serves.writes`, `Serves.poll`, `Serves.scrape`).
-/

namespace StorageMetrics

open StorageMetrics.Action

/-! ## Checks -/

/-- Where nothing is marked, the action changes nothing, whatever comes of it. -/
def Action.Checks (t : Action α) : Prop := ∀ h, h.marks = [] → t.after h = h

namespace Action.Checks

variable {t : Action α}

theorem look (find : Host → Option α) : Checks (do Action.known (find (← MonadState.get))) := by
  intro h _
  rw [after_bind_of_ok (get_run h)]
  cases find h <;> rfl

theorem of_ok {a : α} (ran : ∀ h : Host, h.marks = [] → t h = .ok a h) : Checks t :=
  fun h unmarked => after_of_ok (ran h unmarked)

theorem bind {f : α → Action β} (first : Checks t) (rest : ∀ a, Checks (f a)) :
    Checks (t >>= f) := by
  intro h unmarked
  have before := first h unmarked
  cases ran : t h with
  | ok a g =>
    rw [after_of_ok ran] at before
    rw [after_bind_of_ok ran, before]
    exact rest a h unmarked
  | error e g =>
    rw [after_of_error ran] at before
    rw [after_of_error (bind_of_error ran f), before]

end Action.Checks

/-! ## What a histogram takes in -/

/-- A computation goes through only if all of its steps do. -/
theorem ok_of_except_bind {ε α β : Type} {x : Except ε α} {f : α → Except ε β} {b : β}
    (ran : x >>= f = .ok b) : ∃ a, x = .ok a ∧ f a = .ok b := by
  cases x with
  | error e => cases ran
  | ok a => exact ⟨a, rfl, ran⟩

theorem Value.add_present {a b v : Value} (added : a.add b = .ok v) : a ≠ .none ∧ v ≠ .none := by
  unfold add at added
  split at added
  · cases added
    exact ⟨Value.noConfusion, Value.noConfusion⟩
  · cases added
    exact ⟨Value.noConfusion, Value.noConfusion⟩
  · obtain ⟨x, first, added⟩ := ok_of_except_bind added
    obtain ⟨y, -, added⟩ := ok_of_except_bind added
    obtain ⟨n, -, sum⟩ := ok_of_except_bind added
    constructor
    · rintro rfl
      cases first
    · rintro rfl
      cases n <;> cases sum

/-- Nothing can be added to a missing value, and no sum is missing. -/
theorem Value.grow_present {a b v : Value} (grown : a.grow b = .ok v) : a ≠ .none ∧ v ≠ .none := by
  unfold grow at grown
  split at grown
  case h_1 xs =>
    refine ⟨Value.noConfusion, ?_⟩
    obtain ⟨ys, -, joined⟩ := ok_of_except_bind grown
    rintro rfl
    cases joined
  case h_2 => exact add_present grown

namespace Histogram

theorem length_countIn (v : Number) (bounds : List Float) (counts : List Nat) :
    (countIn v bounds counts).length = counts.length := by
  induction bounds generalizing counts with
  | nil => rfl
  | cons b rest ih =>
    cases counts with
    | nil => rfl
    | cons n counts =>
      rw [countIn]
      split
      · rfl
      · rw [List.length_cons, List.length_cons, ih]

theorem isSummed_eq {contents : Histogram} (present : contents.total ≠ .none) :
    contents.isSummed = contents.hasSum := by
  unfold isSummed
  cases total : contents.total <;> first | exact absurd total present | exact Bool.and_true _

/-- A histogram that takes a value in keeps its bounds, with a count for each of them. -/
theorem update_rewritten (contents : Histogram) (value : Value) :
    (Instrument.histogram contents).Rewritten (.histogram (contents.update value).2) := by
  unfold update
  split
  · exact .same _
  case h_2 total grown =>
    obtain ⟨before, after⟩ := Value.grow_present grown
    have summed (counts : List Nat) :
        ({ contents with total := total, counts := counts } : Histogram).isSummed =
          contents.isSummed := by
      rw [isSummed_eq before, isSummed_eq after]
      rfl
    split
    · exact .histogram rfl rfl (summed _)
    · exact .histogram rfl (length_countIn _ _ _) (summed _)

end Histogram

namespace Host

variable {h g : Host} {id target : Nat} {built there : List SurfaceRequest}

/-! ## Writes -/

theorem spares_of_checks {t : Action α} (checks : Checks t) : Preserves (Spares id target h) t := by
  intro g spares
  rw [checks g spares.unmarked]
  exact spares

/-- An instrument was written by its owner. -/
theorem setTotal_spares (unmarked : h.marks = []) (tidy : h.strays = []) {hd : Handle}
    {i j : Instrument} (here : h.instruments[hd.id]? = some i) (rewritten : i.Rewritten j) :
    Spares id target h ((setTotal hd j).after h) where
  unmarked := unmarked
  tidy := tidy
  registry := rfl
  target_eq := rfl
  failures _ s _ found counts := ⟨s, found, counts⟩
  instruments k other found := by
    show ∃ l, (h.instruments.setIfInBounds hd.id j)[k]? = some l ∧ _
    by_cases same : hd.id = k
    · subst same
      obtain ⟨inside, -⟩ := Array.getElem?_eq_some_iff.mp here
      obtain rfl := Option.some.inj (here.symm.trans found)
      exact ⟨j, by simp [inside], rewritten⟩
    · exact ⟨other, by simp [same, found], .same other⟩

section Writes

variable (unmarked : h.marks = []) (tidy : h.strays = [])

include unmarked

theorem requireObservable_unmarked (hd : Handle) : requireObservable hd h = .ok () h := by
  rw [requireObservable, bind_of_ok (lacksLabels_unmarked unmarked hd)]
  rfl

/-- Where nothing is marked, a histogram takes a value in as its contents do. -/
theorem update_run {hd : Handle} {contents : Histogram}
    (here : h.instruments[hd.id]? = some (.histogram contents)) (v : Value) :
    update hd v h = match contents.update v with
      | (.ok (), updated) => .ok updated ((setTotal hd (.histogram updated)).after h)
      | (.error e, updated) =>
        .error (.number e) ((setTotal hd (.histogram updated)).after h) := by
  rw [update, bind_of_ok (getInstrument_run here)]
  dsimp only
  rw [bind_of_ok (requireUnmarked_unmarked unmarked _ _),
    bind_of_ok (requireOwn_unmarked unmarked _ _ _),
    bind_of_ok (requireUnmarked_unmarked unmarked _ _),
    bind_of_ok (requireObservable_unmarked unmarked hd),
    bind_of_ok (requireTotal_unmarked unmarked hd _ _)]
  obtain ⟨outcome, updated⟩ := contents.update v
  have written : setTotal hd (.histogram updated) h =
      .ok () ((setTotal hd (.histogram updated)).after h) := rfl
  have unmarked' : ((setTotal hd (.histogram updated)).after h).marks = [] := unmarked
  rw [bind_of_ok written]
  cases outcome with
  | error e => rfl
  | ok _ =>
    have taken : Action.ofExcept ((Except.ok () : Except NumberError Unit).mapError Fault.number)
        ((setTotal hd (.histogram updated)).after h) =
          .ok () ((setTotal hd (.histogram updated)).after h) := rfl
    rw [bind_of_ok taken, bind_of_ok (requireBounds_unmarked unmarked' hd contents)]
    refine (ite_bind_run (requireBuckets_unmarked unmarked' hd) _).trans ?_
    rw [bind_of_ok (requireAllUnmarked_unmarked unmarked' _ _)]
    exact readContents_unmarked unmarked' hd updated

include tidy

/-- Incrementing the series of a counter spares every registry. -/
theorem addToCounter_spares (hd : Handle) (amount : Value) :
    Spares id target h ((addToCounter hd amount).after h) := by
  have untouched := Spares.refl unmarked tidy id target
  cases here : h.instruments[hd.id]? with
  | none => rwa [addToCounter, after_of_error (bind_of_error (getInstrument_unknown here) _)]
  | some i =>
    rw [addToCounter, after_bind_of_ok (getInstrument_run here)]
    cases i with
    | counter total =>
      dsimp only
      rw [after_bind_of_ok (requireUnmarked_unmarked unmarked _ _),
        after_bind_of_ok (requireObservable_unmarked unmarked hd)]
      cases Counter.increase total amount with
      | error e => exact untouched
      | ok grown =>
        cases grown with
        | none => exact untouched
        | some total' =>
          have written : Spares id target h ((setTotal hd (.counter total')).after h) :=
            setTotal_spares unmarked tidy here (.counter total total')
          rw [← after_bind_of_ok (requireTotal_unmarked unmarked hd "_value" "inc")
            fun _ => setTotal hd (.counter total')] at written
          exact written
    | _ => exact untouched

theorem increase_spares (hd : Handle) (amount : Value) :
    Spares id target h ((increase hd amount).after h) := by
  rw [increase, after_bind_of_ok (requireUnmarked_unmarked unmarked _ _),
    after_bind_of_ok (requireOwn_unmarked unmarked _ _ _)]
  refine Preserves.after_bind (addToCounter_spares unmarked tidy hd amount) fun _ =>
    spares_of_checks (.bind (.of_ok fun _ unmarked => requireUnmarked_unmarked unmarked _ _) fun _ =>
      .bind (.look _) fun i => ?_)
  intro g unmarked
  cases i with
  | counter total =>
    dsimp only
    rw [after, readCount_unmarked unmarked hd total]
    cases total.toInt <;> rfl
  | _ => rfl

/-- Taking a value into a histogram spares every registry. -/
theorem update_spares (hd : Handle) (value : Value) :
    Spares id target h ((update hd value).after h) := by
  have untouched := Spares.refl unmarked tidy id target
  cases here : h.instruments[hd.id]? with
  | none => rwa [update, after_of_error (bind_of_error (getInstrument_unknown here) _)]
  | some i =>
    cases i with
    | histogram contents =>
      have written : (update hd value).after h =
          (setTotal hd (.histogram (contents.update value).2)).after h := by
        rw [after, update_run unmarked here]
        obtain ⟨outcome, updated⟩ := contents.update value
        cases outcome <;> rfl
      rw [written]
      exact setTotal_spares unmarked tidy here (contents.update_rewritten value)
    | _ =>
      rw [update, after_bind_of_ok (getInstrument_run here)]
      exact spares_of_checks (.bind (.of_ok fun _ unmarked => requireUnmarked_unmarked unmarked _ _)
        fun _ _ _ => rfl) h untouched

/-- Noting a transfer changes its tracker at most. -/
theorem record_spares (flow : Item) (d : Direction) (bytes : Value) :
    Spares id target h ((record flow d bytes).after h) := by
  have untouched := Spares.refl unmarked tidy id target
  unfold record
  rw [after_bind_of_ok (requireUnmarked_unmarked unmarked _ _)]
  cases flow with
  | tracker k =>
    dsimp only
    cases found : h.trackers[k]? with
    | none =>
      have unknown : getTracker k h = .error .unknown h := by
        rw [getTracker, bind_of_ok (get_run h), found]
        rfl
      rwa [after_of_error (bind_of_error unknown _)]
    | some tracker =>
      have known : getTracker k h = .ok tracker h := look_run found
      rw [after_bind_of_ok known, after_bind_of_ok (get_run h),
        after_bind_of_ok (Item.mark?_run (mark?_of_marks_nil unmarked _ _))]
      refine untouched.congr ?_
      cases (tracker.record h.clock d bytes).1 <;> rfl
  | _ =>
    obtain ⟨e, kept, ran⟩ := askPart_run (α := Unit) _ d.recorderName h
    refine untouched.congr ?_
    dsimp only
    rw [after_of_error ran]
    rfl

/-- Whatever an owner writes spares every registry. -/
theorem Write.spares (w : Write) : Spares id target h (w.after h) := by
  cases w with
  | increase hd amount => exact increase_spares unmarked tidy hd amount
  | update hd v => exact update_spares unmarked tidy hd v
  | record flow d bytes => exact record_spares unmarked tidy flow d bytes

end Writes

/-! ## Serving on -/

/-- An owner writes. -/
theorem Serves.write (serves : Serves id target h built there) (w : Write) :
    Serves id target (w.after h) built there := by
  obtain ⟨failures, r, wired, -⟩ := serves.wired
  exact .elsewhere serves (w.spares wired.unmarked wired.tidy)

theorem Serves.writes (serves : Serves id target h built there) (ws : List Write) :
    Serves id target (ws.foldl (fun h w => w.after h) h) built there := by
  induction ws generalizing h with
  | nil => exact serves
  | cons w rest ih => exact ih (serves.write w)

/-- A gauge is polled. -/
theorem Serves.poll (serves : Serves id target h built there) (hd : Handle) :
    Serves id target ((pollGauge hd).after h) built there := by
  obtain ⟨failures, r, wired, -⟩ := serves.wired
  exact .elsewhere serves ((pollGauge_quiet wired.unmarked hd).spares wired.unmarked wired.tidy _ _)

/-- The registry's own target is scraped. -/
theorem Serves.scrape (serves : Serves id target h built there) :
    Serves id target ((Host.scrape target).after h) built there := by
  obtain ⟨failures, r, wired, -⟩ := serves.wired
  obtain ⟨ms, t, s, families, h', scraped⟩ := wired.scraped
  rw [after_of_ok scraped.ran]
  exact .elsewhere serves (scraped.quiet.spares wired.unmarked wired.tidy _ _)

end Host

end StorageMetrics
