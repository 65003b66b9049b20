import StorageMetrics.Host.Context
import StorageMetrics.Host.Writing
import StorageMetrics.Proofs.Host.Reads

/-
  Registrations, new registries and new contexts leave the anchor of the process alone, and so do the
  writes of owners. So whoever makes a context to publish it finds published afterwards what was
  published before (`Host.createContext_leaves`), and what is published stands while instruments are
  written (`Host.Write.anchor_eq`).
-/

namespace StorageMetrics

open StorageMetrics.Action

/-- What asking leaves alone, the anchor among it. -/
theorem Action.Leaves.anchor {t : Action α} (leaves : Leaves Host.leftByAsking t) :
    Leaves Host.anchor t :=
  leaves.coarsen fun _ _ same => by
    have coarse := congrArg Host.anchor same
    exact coarse

namespace Host

open Item

/-! ## Checks -/

theorem mark?_anchor (item : Item) (name : String) : Leaves Host.anchor (item.mark? name) :=
  (mark?_leaves item name).leftByAsking.anchor

theorem markedValue?_anchor (item : Item) (name : String) :
    Leaves Host.anchor (item.markedValue? name) := (markedValue?_leaves item name).anchor

theorem requireUnmarked_anchor (item : Item) (name : String) :
    Leaves Host.anchor (item.requireUnmarked name) := (requireUnmarked_leaves item name).anchor

theorem requireAllUnmarked_anchor (item : Item) (names : List String) :
    Leaves Host.anchor (item.requireAllUnmarked names) := (requireAllUnmarked_leaves item names).anchor

theorem requireOwn_anchor (item : Item) (part asked : String) :
    Leaves Host.anchor (requireOwn item part asked) := (requireOwn_leaves item part asked).anchor

theorem requireBindings_anchor (id : Nat) (operation asked : String) :
    Leaves Host.anchor (requireBindings id operation asked) :=
  .bind (requireAllUnmarked_anchor _ _) fun _ => requireOwn_anchor _ _ _

theorem report_anchor (e : JournalEntry) : Leaves Host.anchor (Action.report e) :=
  .modify fun _ => rfl

/-! ## Strays -/

theorem strays?_anchor (kind : Store) (owner : Nat) : Leaves Host.anchor (strays? kind owner) :=
  .bind .get fun _ => .pure _

theorem straysOf_anchor (kind : Store) (owner : Nat) : Leaves Host.anchor (straysOf kind owner) :=
  .bind (strays?_anchor _ _) fun _ => .pure _

theorem stray?_anchor (kind : Store) (owner : Nat) (key : Value) :
    Leaves Host.anchor (stray? kind owner key) := (stray?_leaves kind owner key).anchor

theorem hiddenEntries_anchor (kind : Store) (owner : Nat) :
    Leaves Host.anchor (hiddenEntries kind owner) := .bind (strays?_anchor _ _) fun _ => .pure _

theorem ownEntries_anchor (kind : Store) (owner : Nat) :
    Leaves Host.anchor (ownEntries kind owner) := by
  unfold ownEntries
  split
  · exact .bind (.look _) fun _ => .pure _
  · exact .bind (.look _) fun _ => .bind (hiddenEntries_anchor _ _) fun _ => .pure _
  · exact .pure _

theorem putStray_anchor (kind : Store) (owner : Nat) (key v : Value) :
    Leaves Host.anchor (putStray kind owner key v) := by
  refine .bind (hiddenEntries_anchor _ _) fun hidden => .bind (straysOf_anchor _ _) fun all =>
    .bind (strays?_anchor _ _) fun s => ?_
  split
  · exact .modify fun _ => rfl
  · exact .bind (ownEntries_anchor _ _) fun _ => .modify fun _ => rfl

theorem dropStray_anchor (kind : Store) (owner : Nat) (key : Value) :
    Leaves Host.anchor (dropStray kind owner key) := by
  refine .bind (strays?_anchor _ _) fun s => ?_
  split
  · exact .modify fun _ => rfl
  · exact .pure _

/-! ## Families -/

theorem setFamily_anchor (id : Nat) (family : String) (entry : Option Family.Entry) :
    Leaves Host.anchor (setFamily id family entry) := .bind (.look _) fun _ => .modify fun _ => rfl

theorem forgetShape_anchor (id : Nat) (family : String) :
    Leaves Host.anchor (forgetShape id family) := by
  refine .bind (dropStray_anchor _ _ _) fun _ => .bind (.look _) fun attached => ?_
  split
  · exact .bind (stray?_anchor _ _ _) fun _ =>
      .ite (.bind (putStray_anchor _ _ _ _) fun _ => setFamily_anchor _ _ _) (setFamily_anchor _ _ _)
  · exact .pure _

theorem countMember_anchor (id : Nat) (family : String) (shape : Shape) :
    Leaves Host.anchor (countMember id family shape) := by
  refine .bind (Leaves.outcome ?_) fun counted => ?_
  · refine .bind (requireOwn_anchor _ _ _) fun _ => .bind (stray?_anchor _ _ _) fun size => ?_
    split
    · exact .bind (.ofExcept _) fun _ => putStray_anchor _ _ _ _
    · exact .pure _
  · split
    · exact .bind (.look _) fun _ =>
        .ite (.bind (setFamily_anchor _ _ _) fun _ => .throw _) (.throw _)
    · exact .pure _

theorem enterFamily_anchor (id : Nat) (name : MetricName) (hd : Handle) :
    Leaves Host.anchor (enterFamily id name hd) := by
  have counted (family : String) (shape : Shape) : Leaves Host.anchor (do
      if ((← getRegistry id).registry.families.get? family).all (·.shape = shape) then
        countMember id family shape) :=
    .bind (.look _) fun _ => .ite (countMember_anchor _ _ _) (.pure _)
  refine .bind (requireUnmarked_anchor _ _) fun _ => .bind (requireOwn_anchor _ _ _) fun _ =>
    .bind (.look _) fun _ => .bind (stray?_anchor _ _ _) fun shape => ?_
  dsimp only
  split
  · exact .bind (forgetShape_anchor _ _) fun _ => counted _ _
  · exact .bind (.throw _) fun _ => counted _ _
  · exact counted _ _

/-! ## Registrations -/

theorem makeWay_anchor (id : Nat) (name : MetricName) (hd : Handle) :
    Leaves Host.anchor (makeWay id name hd) :=
  .bind .get fun _ => .ite (.bind (.look _) fun _ => .ite (enterFamily_anchor _ _ _) (.pure _))
    (.pure _)

theorem commit_anchor (id : Nat) (name : MetricName)
    (decided : Except RegistrationError Registration) :
    Leaves Host.anchor (commit id name decided) :=
  .bind (.ofExcept _) fun _ => .check (report_anchor _) fun _ => .bind (.look _) fun _ =>
    .bind (.modify fun _ => rfl) fun _ => .pure _

theorem register_anchor (id : Nat) (name : MetricName) (offer : Offer) :
    Leaves Host.anchor (register id name offer) := by
  have committed : Leaves Host.anchor (do
      commit id name ((← getRegistry id).registry.register name offer)) :=
    .bind (.look _) fun _ => commit_anchor _ _ _
  refine .bind (requireUnmarked_anchor _ _) fun _ => ?_
  cases offer with
  | instrument hd =>
    exact .bind (requireBindings_anchor _ _ _) fun _ => .bind (makeWay_anchor _ _ _) fun _ => committed
  | other kind => exact committed

theorem registerGauge_anchor (registry : Nat) (name : MetricName) (query : Query)
    (message : String) : Leaves Host.anchor (registerGauge registry name query message) :=
  .bind .get fun _ => .bind (fun _ => rfl) fun _ => register_anchor _ _ _

/-! ## Writes -/

/-- What owners do to their counters, histograms and trackers. -/
inductive Write where
  | increase (counter : Handle) (amount : Value)
  | update (histogram : Handle) (value : Value)
  | record (flow : Item) (d : Direction) (bytes : Value)

/-- The host after a write, whatever came of it. -/
def Write.after : Write → Host → Host
  | increase hd amount => (Host.increase hd amount).after
  | update hd v => (Host.update hd v).after
  | record flow d bytes => (Host.record flow d bytes).after

theorem setTotal_anchor (hd : Handle) (i : Instrument) : Leaves Host.anchor (setTotal hd i) :=
  .bind (vacate_leaves _).leftByAsking.anchor fun _ => .modify fun _ => rfl

theorem requireObservable_anchor (hd : Handle) : Leaves Host.anchor (requireObservable hd) :=
  .bind (lacksLabels_leaves hd).anchor fun _ =>
    .ite (.bind (markedValue?_anchor _ _) fun _ => .throw _) (.pure _)

theorem addToCounter_anchor (hd : Handle) (amount : Value) :
    Leaves Host.anchor (addToCounter hd amount) := by
  refine .bind (.look _) fun i => ?_
  split
  · refine .bind (requireUnmarked_anchor _ _) fun _ => .bind (requireObservable_anchor _) fun _ =>
      .bind (.ofExcept _) fun grown => ?_
    split
    · exact .throw _
    · exact .bind (requireTotal_leaves _ _ _).anchor fun _ => setTotal_anchor _ _
  · exact .throw _

theorem increase_anchor (hd : Handle) (amount : Value) :
    Leaves Host.anchor (increase hd amount) := by
  refine .bind (requireUnmarked_anchor _ _) fun _ => .bind (requireOwn_anchor _ _ _) fun _ =>
    .bind (addToCounter_anchor _ _) fun _ => .bind (requireUnmarked_anchor _ _) fun _ =>
      .bind (.look _) fun i => ?_
  split
  · exact (readCount_leaves _ _).anchor
  · exact .throw _

theorem update_anchor (hd : Handle) (value : Value) : Leaves Host.anchor (update hd value) := by
  refine .bind (.look _) fun i => ?_
  split
  · exact .bind (requireUnmarked_anchor _ _) fun _ => .bind (requireOwn_anchor _ _ _) fun _ =>
      .bind (requireUnmarked_anchor _ _) fun _ => .bind (requireObservable_anchor _) fun _ =>
        .bind (requireTotal_leaves _ _ _).anchor fun _ => .bind (setTotal_anchor _ _) fun _ =>
          .bind (.ofExcept _) fun _ => .bind (requireBounds_leaves _ _).anchor fun _ =>
            .check (requireBuckets_leaves _).anchor fun _ =>
              .bind (requireAllUnmarked_anchor _ _) fun _ => (readContents_leaves _ _).anchor
  · exact .bind (requireUnmarked_anchor _ _) fun _ => .throw _

theorem record_anchor (flow : Item) (d : Direction) (bytes : Value) :
    Leaves Host.anchor (record flow d bytes) := by
  have noted (id : Nat) (t : Throughput) (outcome : Except Fault Unit) : Leaves Host.anchor (do
      setTracker id t
      Action.ofExcept outcome) := .bind (.modify fun _ => rfl) fun _ => .ofExcept _
  refine .bind (requireUnmarked_anchor _ _) fun _ => ?_
  split
  · exact .bind (.look _) fun _ => .bind .get fun _ => .bind (mark?_anchor _ _) fun _ =>
      .ite (.bind (.ofExcept _) fun _ => .bind (requireOwn_anchor _ _ _) fun _ => noted _ _ _)
        (noted _ _ _)
  · exact (askPart_leaves _ _).anchor

/-- Owners leave alone what is published. -/
theorem Write.anchor_eq (w : Write) (h : Host) : (w.after h).anchor = h.anchor := by
  cases w with
  | increase hd amount => exact increase_anchor hd amount h
  | update hd v => exact update_anchor hd v h
  | record flow d bytes => exact record_anchor flow d bytes h

/-! ## New registries -/

theorem takenNames_anchor (target : Nat) : Leaves Host.anchor (takenNames target) := by
  refine .bind (markedValue?_anchor _ _) fun marked => ?_
  split
  · exact .bind (.ofExcept _) fun _ => .ite (.pure _) (.throw _)
  · exact .bind (straysOf_anchor _ _) fun _ => .pure _

theorem attach_anchor (target : Nat) (a : Attachment) : Leaves Host.anchor (attach target a) :=
  .bind (requireAllUnmarked_anchor _ _) fun _ => .bind (takenNames_anchor _) fun _ =>
    .guard fun _ => .check (requireUnmarked_anchor _ _) fun _ => .bind (.look _) fun _ =>
      .bind (.ofExcept _) fun _ => .bind (.modify fun _ => rfl) fun _ => requireUnmarked_anchor _ _

theorem failureCounter_anchor (target : Nat) (exportName : Value) :
    Leaves Host.anchor (failureCounter target exportName) := by
  refine .bind .get fun _ => .bind (attach_anchor _ _).outcome fun attached => ?_
  split
  · exact fun _ => rfl
  · refine .bind (requireOwn_anchor _ _ _) fun _ => .bind (.look _) fun _ =>
      .bind (stray?_anchor _ _ _) fun found => ?_
    split
    · exact .bind (.look _) fun _ => .ite (.bind (report_anchor _) fun _ => .pure _) (.throw _)
    · exact .throw _
  · exact .throw _

theorem reportSuperseded_anchor (exportName : Value) (n : Nat) :
    Leaves Host.anchor (reportSuperseded exportName n) := by
  induction n with
  | zero => exact .pure _
  | succ n ih => exact .bind (report_anchor _) fun _ => ih

theorem requireExportNames_anchor (t : Target) : Leaves Host.anchor (requireExportNames t) := by
  induction t with
  | nil => exact .pure _
  | cons a rest ih =>
    unfold requireExportNames
    split
    · exact .bind (mark?_anchor _ _) fun _ => .guard fun _ => ih
    · exact ih

theorem supersede_anchor (target : Nat) (exportName : Value) :
    Leaves Host.anchor (supersede target exportName) := by
  refine .bind (markedValue?_anchor _ _) fun marked => ?_
  split
  · exact .bind (.ofExcept _) fun _ => .pure _
  · refine .bind (hiddenEntries_anchor _ _) fun _ => .bind (.look _) fun _ =>
      .bind (requireExportNames_anchor _) fun _ => .check (requireAllUnmarked_anchor _ _) fun _ =>
        .bind (reportSuperseded_anchor _ _) fun _ => .bind (strays?_anchor _ _) fun s => ?_
    split
    · exact .bind (.modify fun _ => rfl) fun _ => .modify fun _ => rfl
    · exact .modify fun _ => rfl

theorem addPrivateRegistry_anchor (exportName : Value) :
    Leaves Host.anchor (addPrivateRegistry exportName) :=
  .bind (fun _ => rfl) fun _ => .bind .get fun _ => .bind (.modify fun _ => rfl) fun _ =>
    .bind (supersede_anchor _ _) fun _ => .bind (attach_anchor _ _) fun _ =>
      .bind (failureCounter_anchor _ _) fun _ => .bind (.modify fun _ => rfl) fun _ => .pure _

/-! ## New contexts -/

theorem isBound_anchor (item : Item) (name : MetricName) : Leaves Host.anchor (isBound item name) := by
  refine .bind (requireUnmarked_anchor _ _) fun _ => .bind (markedValue?_anchor _ _) fun marked => ?_
  split
  · exact .throw _
  · exact .bind (.ofExcept _) fun _ => .pure _
  · split
    · exact .bind (.look _) fun _ => .pure _
    · exact .pure _

theorem isContainer_anchor (item : Item) : Leaves Host.anchor item.isContainer := by
  unfold isContainer
  split
  · exact .pure _
  · exact .pure _
  · exact .pure _
  · exact .bind (content?_leaves item).leftByAsking.anchor fun _ => .pure _

theorem registryAmong_anchor (item : Item) : Leaves Host.anchor (registryAmong item) := by
  have told : Leaves Host.anchor (Action.part item.asRegistry) := by
    cases item.asRegistry with
    | some id => exact .pure _
    | none => exact .throw _
  exact .bind (isContainer_anchor _) fun _ => .guard fun _ => .bind (isBound_anchor _ _) fun _ =>
    .bind (isBound_anchor _ _) fun _ => .check (report_anchor _) fun _ => told

theorem rateQuery_anchor (flow : Item) (d : Direction) : Leaves Host.anchor (rateQuery flow d) := by
  refine .bind (require_leaves flow _).leftByAsking.anchor fun _ =>
    .bind (mark?_anchor _ _) fun marked => ?_
  split
  · exact .pure _
  · exact .pure _

theorem registerThroughput_anchor (item flow : Item) :
    Leaves Host.anchor (registerThroughput item flow) :=
  .bind (registryAmong_anchor _) fun _ => .bind (rateQuery_anchor _ _) fun _ =>
    .bind (registerGauge_anchor _ _ _ _) fun _ => .bind (rateQuery_anchor _ _) fun _ =>
      .bind (registerGauge_anchor _ _ _ _) fun _ => .pure _

theorem reportCreated_anchor (exportName : Value) (s : Settings) :
    Leaves Host.anchor (reportCreated exportName s) := by
  unfold reportCreated
  split
  · exact report_anchor _
  · exact .bind .get fun _ => .ite (.throw _) (.pure _)

theorem settle_anchor (item : Item) (home : Home) : Leaves Host.anchor (settle item home) := by
  unfold settle
  split
  · exact .bind (.modify fun _ => rfl) fun _ => .modify fun _ => rfl
  · exact .pure _

theorem addTracker_anchor (span : Value) : Leaves Host.anchor (addTracker span) :=
  .bind (.ofExcept _) fun _ => fun _ => rfl

/-- What becomes of a context that has its registry and its source of rates. -/
theorem wireContext_anchor (r : ContextRequest) (settings : Settings) (registry flow : Item) :
    Leaves Host.anchor (do
      let (outgoing, incoming) ← registerThroughput registry flow
      let id ← Action.part registry.asRegistry
      reportCreated (← getRegistry id).registry.exportName settings
      let context ← addContext ⟨settings, r.engine, id, flow, outgoing, incoming⟩
      if r.registry.isNone then
        settle (← (Item.settings context).part "namespace") (.part registry "namespace")
      if r.flow.isNone && settings.windowSeconds matches .float _ then
        settle (← (Item.settings context).part "throughput_window_seconds")
          (.part flow "window_seconds")
      return Item.context context) := by
  have shared {owner : Item} {part : String} {home : Home} {rest : PUnit → Action Item}
      (leaves : ∀ u, Leaves Host.anchor (rest u)) :
      Leaves Host.anchor (owner.part part >>= fun item => settle item home >>= rest) :=
    .bind (part_leaves owner part).leftByAsking.anchor fun _ => .bind (settle_anchor _ _) leaves
  refine .bind (registerThroughput_anchor _ _) fun _ => .bind ?_ fun _ => .bind (.look _) fun _ =>
    .bind (reportCreated_anchor _ _) fun _ => .bind (fun _ => rfl) fun _ => ?_
  · cases registry.asRegistry with
    | some id => exact .pure _
    | none => exact .throw _
  · exact .ite (shared fun _ => .ite (shared fun _ => .pure _) (.pure _))
      (.ite (shared fun _ => .pure _) (.pure _))

/-- Making a context leaves alone what is published. -/
theorem createContext_leaves (r : ContextRequest) : Leaves Host.anchor (createContext r) := by
  have wired := wireContext_anchor r
  unfold createContext
  dsimp only
  split
  · refine .bind (.pure _) fun _ => ?_
    split
    · exact .bind (.pure _) fun _ => wired _ _ _
    · exact .bind (addTracker_anchor _) fun _ => .bind (.pure _) fun _ => wired _ _ _
  · refine .bind (addPrivateRegistry_anchor _) fun _ => .bind (.pure _) fun _ => ?_
    split
    · exact .bind (.pure _) fun _ => wired _ _ _
    · exact .bind (addTracker_anchor _) fun _ => .bind (.pure _) fun _ => wired _ _ _

end Host

end StorageMetrics
