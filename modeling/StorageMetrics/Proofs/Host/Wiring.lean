import StorageMetrics.Proofs.Host.Building
import StorageMetrics.Proofs.Host.LookUps
import StorageMetrics.Proofs.Host.Parts

/-
  Throughput gauges and contexts on a registry of own labels. Asking a source of throughput for its
  two parts always succeeds and changes nothing but what is kept, so the gauges are bound or found
  (`registerThroughput_run`), and so are those of every context (`createContext_given_run`,
  `createContext_made_run`).
-/

namespace StorageMetrics

open StorageMetrics.Action

namespace Host

variable {h h' g : Host} {id : Nat} {r s : Registry}

/-! ## Keeping -/

theorem keepNew_run (c : Content) (h : Host) : ∃ item h', keepNew c h = .ok item h' := by
  unfold keepNew
  split
  · split
    · exact ⟨_, _, rfl⟩
    · exact ⟨_, _, rfl⟩
  · exact ⟨_, _, rfl⟩

/-- What lives at a home is kept, so that it can be looked up. -/
theorem keepLiving_run (home : Home) (c : Content) (h : Host) :
    ∃ item h', keepLiving home c h = .ok item h' := by
  rw [keepLiving, bind_of_ok (get_run h)]
  cases lives : h.kept.findIdx? (·.livesAt home) with
  | none => exact ⟨_, _, rfl⟩
  | some id =>
    obtain ⟨inside, -⟩ := Array.findIdx?_eq_some_iff_getElem.mp lives
    have known : getKept id h = .ok h.kept[id] h := look_run (Array.getElem?_eq_getElem inside)
    dsimp only
    rw [bind_of_ok known]
    split
    · exact ⟨_, _, rfl⟩
    · exact ⟨_, _, rfl⟩

theorem keepAt_run (home : Home) (c : Content) (h : Host) :
    ∃ item h', keepAt home c h = .ok item h' := by
  unfold keepAt
  split
  · split
    · exact ⟨_, _, rfl⟩
    · exact keepLiving_run _ _ h
  · exact keepLiving_run _ _ h

theorem settle_run (item : Item) (home : Home) (h : Host) :
    ∃ h', settle item home h = .ok () h' ∧ h'.besidesKept = h.besidesKept := by
  cases item <;> exact ⟨_, rfl, rfl⟩

/-- What only keeps things leaves the registry and the surroundings alone. -/
theorem Uses.grows_of_besidesKept (uses : h.Uses id r) (same : h'.besidesKept = h.besidesKept) :
    Grows id [] h r h' r where
  uses := uses.congr (congrArg (·.registries) same) (congrArg (·.strays) same)
    (congrArg (·.marks) same)
  names_iff name := by simp
  kept _ _ bound := bound
  same := (congrArg surroundings same :)

/-! ## Sources of throughput -/

/-- A source of throughput: a tracker of the host, or two cells. -/
def IsSource (h : Host) : Item → Prop
  | .tracker k => k < h.trackers.size
  | .rates .. => True
  | _ => False

theorem IsSource.congr {flow : Item} (source : h.IsSource flow)
    (same : h'.surroundings = h.surroundings) : h'.IsSource flow := by
  have trackers : h'.trackers = h.trackers := congrArg (·.trackers) same
  unfold IsSource at source ⊢
  rwa [trackers]

theorem ownPart_rate_run {flow : Item} (source : h.IsSource flow) (d : Direction) :
    flow.ownPart d.partName h = .ok none h := by
  cases flow with
  | tracker k =>
    have known : getTracker k h = .ok h.trackers[k] h := look_run (Array.getElem?_eq_getElem source)
    rw [Item.ownPart, bind_of_ok known]
    cases d <;> rfl
  | rates => rfl
  | _ => exact source.elim

theorem ofPartKind_run (item : Item) (kind part partKind : String) (h : Host) :
    ∃ p h', item.ofPartKind kind part partKind h = .ok p h' := by
  unfold Item.ofPartKind
  split
  · exact ⟨_, _, rfl⟩
  · exact keepAt_run _ _ h
  · exact keepAt_run _ _ h
  · split
    · exact keepNew_run _ h
    · exact keepAt_run _ _ h

theorem kindOf?_rate_tracker (d : Direction) :
    (partsOf "ThroughputManager").kindOf? d.partName = some "method" := by
  cases d <;> decide +kernel

theorem kindOf?_rate_rates (d : Direction) :
    (partsOf "SimpleNamespace").kindOf? d.partName = some "function" := by
  cases d <;> decide +kernel

theorem otherPart_rate_run {flow : Item} (source : h.IsSource flow) (d : Direction) :
    ∃ p h', flow.otherPart d.partName h = .ok p h' := by
  cases flow with
  | tracker k =>
    have rows : (Item.tracker k).table? h = .ok (partsOf "ThroughputManager") h := rfl
    have kind : (Item.tracker k).kindName h = .ok "ThroughputManager" h := rfl
    rw [Item.otherPart, bind_of_ok kind, bind_of_ok rows, kindOf?_rate_tracker]
    exact ofPartKind_run _ _ _ _ h
  | rates n o i =>
    have rows : (Item.rates n o i).table? h = .ok (partsOf "SimpleNamespace") h := rfl
    have kind : (Item.rates n o i).kindName h = .ok "SimpleNamespace" h := rfl
    rw [Item.otherPart, bind_of_ok kind, bind_of_ok rows, kindOf?_rate_rates]
    exact ofPartKind_run _ _ _ _ h
  | _ => exact source.elim

/-- A source has both of the parts that gauges ask for; looking for them only keeps them. -/
theorem rateQuery_run (uses : h.Uses id r) {flow : Item} (source : h.IsSource flow)
    (d : Direction) :
    ∃ h', rateQuery flow d h = .ok (.rate flow d) h' ∧ Grows id [] h r h' r := by
  obtain ⟨p, h', ran⟩ := otherPart_rate_run source d
  have part : flow.part d.partName h = .ok p h' := by
    rw [Item.part, bind_of_ok (Item.mark?_run (uses.mark? _ _))]
    dsimp only
    rw [bind_of_ok (ownPart_rate_run source d)]
    exact ran
  have required : flow.require d.partName h = .ok () h' := by
    rw [Item.require, bind_of_ok part]
    rfl
  have leaves := Item.require_leaves flow d.partName h
  rw [after_of_ok required] at leaves
  have grows := uses.grows_of_besidesKept leaves
  refine ⟨h', ?_, grows⟩
  rw [rateQuery, bind_of_ok required, bind_of_ok (Item.mark?_run (grows.uses.mark? _ _))]
  rfl

/-! ## The gauges of throughput -/

/-- Looking at the two names may be reported. -/
theorem registryAmong_run (uses : h.Uses id r) :
    ∃ h', registryAmong (.registry id) h = .ok id h' ∧ Grows id [] h r h' r := by
  have container : (Item.registry id).isContainer h = .ok true h := rfl
  rw [registryAmong, bind_of_ok container]
  rw [if_neg (by decide)]
  dsimp only
  rw [bind_of_ok (isBound_run uses.toHolds outgoingName), bind_of_ok (isBound_run uses.toHolds incomingName)]
  split
  · refine ⟨{ h with journal := h.journal ++ [alreadyRegisteredEntry] }, rfl, ?_⟩
    exact ⟨uses.congr rfl rfl rfl, fun name => by simp, fun _ _ bound => bound, rfl⟩
  · exact ⟨h, rfl, .refl uses⟩

/-- These gauges are bound under the two names of throughput; otherwise no name was bound or unbound. -/
structure BindsThroughput (r : Registry) (outgoing incoming : Handle) (s : Registry) : Prop where
  outgoing : s.bindings.get? outgoingName = some outgoing
  incoming : s.bindings.get? incomingName = some incoming
  names_iff : ∀ name, name ∈ s.names ↔ name ∈ r.names ∨ name = outgoingName ∨ name = incomingName

theorem registerThroughput_run (uses : h.Uses id r) {flow : Item} (source : h.IsSource flow) :
    ∃ outgoing incoming h' s,
      registerThroughput (.registry id) flow h = .ok (outgoing, incoming) h' ∧
        BindsThroughput r outgoing incoming s ∧ h'.Uses id s ∧
        h'.surroundings = h.surroundings := by
  have ownOutgoing : OwnLabel outgoingName.name .gauge :=
    show OwnLabel outgoingLabel .gauge from .plain (by simp [plainLabels])
  have ownIncoming : OwnLabel incomingName.name .gauge :=
    show OwnLabel incomingLabel .gauge from .plain (by simp [plainLabels])
  obtain ⟨h₁, ran₁, grows₁⟩ := registryAmong_run uses
  obtain ⟨h₂, ran₂, grows₂⟩ := rateQuery_run grows₁.uses (source.congr grows₁.same) .outgoing
  obtain ⟨outgoing, h₃, r₃, ran₃, bound₃, grows₃⟩ :=
    registerGauge_binds grows₂.uses ownOutgoing (.rate flow .outgoing)
      "Failed to get outgoing throughput"
  have until₃ := grows₁.trans (grows₂.trans grows₃)
  obtain ⟨h₄, ran₄, grows₄⟩ := rateQuery_run grows₃.uses (source.congr until₃.same) .incoming
  obtain ⟨incoming, h₅, r₅, ran₅, bound₅, grows₅⟩ :=
    registerGauge_binds grows₄.uses ownIncoming (.rate flow .incoming)
      "Failed to get incoming throughput"
  have after₃ := grows₄.trans grows₅
  have whole := until₃.trans after₃
  refine ⟨outgoing, incoming, h₅, r₅, ?_, ⟨after₃.kept _ _ bound₃, bound₅, fun name => ?_⟩,
    whole.uses, whole.same⟩
  · rw [registerThroughput, bind_of_ok ran₁, bind_of_ok ran₂, bind_of_ok ran₃, bind_of_ok ran₄,
      bind_of_ok ran₅]
    rfl
  · rw [whole.names_iff]
    simp

/-! ## Settings -/

/-- Settings that passed their checks, with a whole number of levels. -/
structure UsableSettings (s : Settings) (levels : Nat) : Prop where
  checked : Settings.ofValues s.maxLevels (.str s.exportName) s.windowSeconds s.strict = .ok s
  counted : levelCount s = .ok levels

theorem UsableSettings.toInt_run {s : Settings} {levels : Nat} (usable : UsableSettings s levels) :
    ∃ n, s.maxLevels.toInt = .ok n := by
  have counted := usable.counted
  unfold levelCount at counted
  split at counted
  case h_1 n same =>
    rw [same]
    exact ⟨n, rfl⟩
  case h_2 b same =>
    rw [same]
    exact ⟨_, rfl⟩
  case h_3 => cases counted

theorem UsableSettings.span_above_zero {s : Settings} {levels : Nat}
    (usable : UsableSettings s levels) :
    ∃ n, s.windowSeconds.number? = some n ∧ ¬ n ≤ .int 0 := by
  have checked := usable.checked
  unfold Settings.ofValues at checked
  -- one split for each check; whatever fails one is no settings
  split at checked
  · cases checked
  split at checked
  · cases checked
  split at checked
  · cases checked
  split at checked
  · cases checked
  split at checked
  · cases checked
  case h_2 n found =>
    split at checked
    · cases checked
    case isFalse above => exact ⟨n, found, above⟩

theorem toFloat_of_number? {v : Value} {n : Number} (found : v.number? = some n) :
    v.toFloat = n.toFloat := by
  unfold Value.toFloat
  split
  case h_1 text =>
    cases found
  case h_2 =>
    rw [Value.number, found]
    rfl

/-- A checked window is above zero, so that a tracker over it only takes a float. -/
theorem UsableSettings.ofSpan_eq {s : Settings} {levels : Nat} (usable : UsableSettings s levels) :
    Throughput.ofSpan s.windowSeconds =
      (s.windowSeconds.toFloat.mapError .number).map fun x => ⟨⟨x, [], .int 0⟩, ⟨x, [], .int 0⟩⟩ := by
  obtain ⟨n, found, above⟩ := usable.span_above_zero
  have number : s.windowSeconds.number = .ok n := by
    rw [Value.number, found]
  rw [Throughput.ofSpan, number, toFloat_of_number? found]
  dsimp only
  rw [if_neg above]
  cases n.toFloat <;> rfl

/-- The one thing that keeps a checked window from being a float is its size. -/
theorem UsableSettings.toFloat_cases {s : Settings} {levels : Nat}
    (usable : UsableSettings s levels) :
    (∃ x, s.windowSeconds.toFloat = .ok x) ∨ s.windowSeconds.toFloat = .error .overflow := by
  obtain ⟨n, found, -⟩ := usable.span_above_zero
  rw [toFloat_of_number? found]
  cases n with
  | float x => exact Or.inl ⟨x, rfl⟩
  | int m =>
    by_cases finite : (Float.ofInt m).isFinite
    · exact Or.inl ⟨_, if_pos finite⟩
    · exact Or.inr (if_neg finite)

/-! ## Contexts -/

theorem reportCreated_run {s : Settings} {levels : Nat} (usable : UsableSettings s levels)
    (exportName : Value) (h : Host) :
    ∃ entry, reportCreated exportName s h = .ok () { h with journal := h.journal ++ [entry] } := by
  obtain ⟨n, ran⟩ := usable.toInt_run
  refine ⟨createdEntry exportName n, ?_⟩
  rw [reportCreated, ran]
  rfl

theorem windowSecondsPart_run (owner : Item) (span : Value) (h : Host) :
    ∃ p h', Item.windowSecondsPart owner span h = .ok (some p) h' := by
  unfold Item.windowSecondsPart
  split
  · obtain ⟨p, h', ran⟩ := keepAt_run (.constant "window") (.plain span) h
    refine ⟨p, h', ?_⟩
    rw [bind_of_ok ran]
    rfl
  · obtain ⟨p, h', ran⟩ := keepAt_run (.part owner "throughput_window_seconds") (.plain span) h
    refine ⟨p, h', ?_⟩
    rw [Item.lastingValue, Item.lasting, bind_of_ok ran]
    rfl

theorem windowPart_run (uses : h.Uses id r) {k : Nat} {c : Context}
    (found : h.contexts[k]? = some c) :
    ∃ p h', (Item.settings k).part "throughput_window_seconds" h = .ok p h' ∧
      h'.besidesKept = h.besidesKept := by
  have known : getContext k h = .ok c h := look_run found
  obtain ⟨p, h', ran⟩ := windowSecondsPart_run (.settings k) c.settings.windowSeconds h
  have own : (Item.settings k).ownPart "throughput_window_seconds" h = .ok (some p) h' := by
    rw [Item.ownPart, bind_of_ok known]
    exact ran
  have part : (Item.settings k).part "throughput_window_seconds" h = .ok p h' := by
    rw [Item.part, bind_of_ok (Item.mark?_run (uses.mark? _ _))]
    dsimp only
    rw [bind_of_ok own]
    rfl
  have leaves := Item.part_leaves (.settings k) "throughput_window_seconds" h
  rw [after_of_ok part] at leaves
  exact ⟨p, h', part, leaves⟩

/-- The window of a context's settings may become that of the tracker that was made over it. -/
theorem settleWindow_run (uses : h.Uses id r) {k : Nat} {c : Context}
    (found : h.contexts[k]? = some c) (flow : Item) (isFloat : Bool) :
    ∃ h', (if isFloat = true then do
        settle (← (Item.settings k).part "throughput_window_seconds") (.part flow "window_seconds")
        return .context k
      else return .context k : Action Item) h = .ok (.context k) h' ∧
      h'.besidesKept = h.besidesKept := by
  cases isFloat with
  | false => exact ⟨h, rfl, rfl⟩
  | true =>
    obtain ⟨p, g, part, same⟩ := windowPart_run uses found
    obtain ⟨h', settled, sameAfter⟩ := settle_run p (.part flow "window_seconds") g
    refine ⟨h', ?_, sameAfter.trans same⟩
    rw [if_pos rfl, bind_of_ok part, bind_of_ok settled]
    rfl

/-- The context with the gauges that are bound in its registry. -/
structure ContextMade (id : Nat) (h : Host) (r : Registry) (c : Context) (h' : Host)
    (s : Registry) : Prop where
  contexts : h'.contexts = h.contexts.push c
  registry_eq : c.registry = id
  binds : BindsThroughput r c.outgoing c.incoming s
  uses : h'.Uses id s
  surfaces : h'.surfaces = h.surfaces

/-- Whether its source was given or made with it, a context is made alike up to its last step. -/
theorem shareGauges_run (uses : h.Uses id r) {flow : Item} (source : h.IsSource flow)
    {settings : Settings} {levels : Nat} (usable : UsableSettings settings levels) (engine : Item) :
    ∃ c h' s, (∀ last : Nat → Action Item, (do
        let (outgoing, incoming) ← registerThroughput (.registry id) flow
        let id ← Action.part (Item.registry id).asRegistry
        reportCreated (← getRegistry id).registry.exportName settings
        last (← addContext ⟨settings, engine, id, flow, outgoing, incoming⟩)) h =
          last h.contexts.size h') ∧ ContextMade id h r c h' s := by
  obtain ⟨outgoing, incoming, g, s, ran, binds, uses', same⟩ := registerThroughput_run uses source
  obtain ⟨a, found, -⟩ := uses'.exists_attached
  obtain ⟨entry, reported⟩ := reportCreated_run usable a.registry.exportName g
  have contexts : g.contexts = h.contexts := congrArg (·.contexts) same
  have surfaces : g.surfaces = h.surfaces := congrArg (·.surfaces) same
  have known : Action.part (Item.registry id).asRegistry g = .ok id g := rfl
  let c : Context := ⟨settings, engine, id, flow, outgoing, incoming⟩
  refine ⟨c, { g with journal := g.journal ++ [entry], contexts := g.contexts.push c }, s, ?_, ?_⟩
  · intro last
    rw [bind_of_ok ran]
    dsimp only
    rw [bind_of_ok known, bind_of_ok (Holds.getRegistry_run found), bind_of_ok reported, ← contexts]
    rfl
  · exact ⟨by rw [contexts], rfl, binds, uses'.congr rfl rfl rfl, surfaces⟩

/-- A context on a given source. -/
theorem createContext_given_run (uses : h.Uses id r) {request : ContextRequest}
    (registry : request.registry = some (.registry id)) {levels : Nat}
    (usable : UsableSettings (request.settings.getD Settings.standard) levels) {flow : Item}
    (given : request.flow = some flow) (source : h.IsSource flow) :
    ∃ c h' s, createContext request h = .ok (.context h.contexts.size) h' ∧
      ContextMade id h r c h' s := by
  obtain ⟨c, h', s, ran, made⟩ := shareGauges_run uses source usable request.engine
  refine ⟨c, h', s, ?_, made⟩
  rw [createContext, registry, given]
  dsimp only
  rw [pure_bind, pure_bind, ran]
  rfl

/-- A context that a tracker is made for. -/
theorem createContext_made_run (uses : h.Uses id r) {request : ContextRequest}
    (registry : request.registry = some (.registry id)) {levels : Nat}
    (usable : UsableSettings (request.settings.getD Settings.standard) levels)
    (missing : request.flow = none) {x : Float}
    (float : (request.settings.getD Settings.standard).windowSeconds.toFloat = .ok x) :
    ∃ c h' s, createContext request h = .ok (.context h.contexts.size) h' ∧
      ContextMade id h r c h' s := by
  let t : Throughput := ⟨⟨x, [], .int 0⟩, ⟨x, [], .int 0⟩⟩
  let g : Host := { h with trackers := h.trackers.push t }
  have tracked : addTracker (request.settings.getD Settings.standard).windowSeconds h =
      .ok h.trackers.size g := by
    rw [addTracker, usable.ofSpan_eq, float]
    rfl
  have source : g.IsSource (.tracker h.trackers.size) := by
    show h.trackers.size < (h.trackers.push t).size
    rw [Array.size_push]
    omega
  have uses' : g.Uses id r := uses.congr rfl rfl rfl
  obtain ⟨c, h₁, s, ran, made⟩ := shareGauges_run uses' source usable request.engine
  have found : h₁.contexts[h.contexts.size]? = some c := by
    rw [made.contexts]
    exact Array.getElem?_push_size
  obtain ⟨h', settled, same⟩ : ∃ h',
      createContext request h = .ok (.context h.contexts.size) h' ∧
        h'.besidesKept = h₁.besidesKept := by
    rw [createContext, registry, missing]
    dsimp only
    rw [pure_bind, bind_of_ok tracked, pure_bind, ran]
    exact settleWindow_run made.uses found (.tracker h.trackers.size) _
  have grows := made.uses.grows_of_besidesKept same
  have contexts : h'.contexts = h₁.contexts := congrArg (·.contexts) same
  have surfaces : h'.surfaces = h₁.surfaces := congrArg (·.surfaces) same
  exact ⟨c, h', s, settled, by rw [contexts, made.contexts], made.registry_eq, made.binds,
    grows.uses, by rw [surfaces, made.surfaces]⟩

/-- Where no source is given and the window is beyond the floats no context is made, and everything
stays as it was. -/
theorem createContext_refused_run {request : ContextRequest} {item : Item}
    (registry : request.registry = some item) {levels : Nat}
    (usable : UsableSettings (request.settings.getD Settings.standard) levels)
    (missing : request.flow = none) {e : NumberError}
    (beyond : (request.settings.getD Settings.standard).windowSeconds.toFloat = .error e)
    (h : Host) : createContext request h = .error (.throughput (.number e)) h := by
  have refused : addTracker (request.settings.getD Settings.standard).windowSeconds h =
      .error (.throughput (.number e)) h := by
    rw [addTracker, usable.ofSpan_eq, beyond]
    rfl
  rw [createContext, registry, missing]
  dsimp only
  rw [pure_bind]
  exact bind_of_error refused _

end Host

end StorageMetrics
