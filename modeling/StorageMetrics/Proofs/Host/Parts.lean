import StorageMetrics.Host.Item
import StorageMetrics.Proofs.Host.Action

/-
  Parts leave the host alone. A part may be made or found when it is asked for, and is kept for its
  identity from then on; nothing else of the host changes (`Item.part_leaves`).
-/

namespace StorageMetrics

open StorageMetrics.Action Host

/-- The host without the things that it keeps for their identity. -/
def Host.besidesKept (h : Host) : Host := { h with kept := #[] }

namespace Host

attribute [simp] Leaves.pure Leaves.throw Leaves.get Leaves.known

@[simp] theorem keepUnder_leaves (homes : List Home) (c : Content) :
    Leaves besidesKept (keepUnder homes c) := fun _ => rfl

@[simp] theorem vacate_leaves (home : Home) : Leaves besidesKept (vacate home) :=
  Leaves.modify fun _ => rfl

@[simp] theorem keepNew_leaves (c : Content) : Leaves besidesKept (keepNew c) := by
  unfold keepNew
  split
  · exact .ite (.pure _) (keepUnder_leaves _ _)
  · exact keepUnder_leaves _ _

@[simp] theorem getKept_leaves (id : Nat) : Leaves besidesKept (getKept id) :=
  .bind .get fun _ => .known _

theorem keepLiving_leaves (home : Home) (c : Content) :
    Leaves besidesKept (keepLiving home c) := by
  refine .bind .get fun h => ?_
  split
  · exact keepUnder_leaves _ _
  · refine .bind (getKept_leaves _) fun k => ?_
    exact .ite (.pure _) (.bind (vacate_leaves _) fun _ => keepUnder_leaves _ _)

@[simp] theorem keepAt_leaves (home : Home) (c : Content) : Leaves besidesKept (keepAt home c) := by
  unfold keepAt
  split
  · exact .ite (.pure _) (keepLiving_leaves _ _)
  · exact keepLiving_leaves _ _

end Host

namespace Item

@[simp] theorem lasting_leaves (owner : Item) (name : String) (c : Content) :
    Leaves besidesKept (lasting owner name c) :=
  .bind (keepAt_leaves _ _) fun _ => .pure _

@[simp] theorem lastingValue_leaves (owner : Item) (name : String) (v : Value) :
    Leaves besidesKept (lastingValue owner name v) := lasting_leaves _ _ _

@[simp] theorem lastingText_leaves (owner : Item) (name text : String) :
    Leaves besidesKept (lastingText owner name text) := lasting_leaves _ _ _

@[simp] theorem constantText_leaves (text : String) : Leaves besidesKept (constantText text) :=
  .bind (keepAt_leaves _ _) fun _ => .pure _

@[simp] theorem made_leaves (c : Content) : Leaves besidesKept (made c) :=
  .bind (keepNew_leaves _) fun _ => .pure _

@[simp] theorem known_leaves (item : Item) : Leaves besidesKept (known item) := .pure _

@[simp] theorem emptyRow_leaves : Leaves besidesKept emptyRow :=
  .bind (keepAt_leaves _ _) fun _ => .pure _

theorem content?_leaves (item : Item) : Leaves besidesKept item.content? := by
  unfold content?
  split
  · exact .bind (getKept_leaves _) fun _ => .pure _
  · exact .pure _
  · exact .pure _

theorem kindName_leaves (item : Item) : Leaves besidesKept item.kindName := by
  cases item <;> first | exact Leaves.pure _ | exact .bind (getKept_leaves _) fun _ => .pure _

theorem mark?_leaves (item : Item) (name : String) : Leaves besidesKept (item.mark? name) := by
  unfold mark?
  refine .bind .get fun h => ?_
  split
  · exact .bind (kindName_leaves _) fun _ => .pure _
  · exact .pure _

theorem plain?_leaves (item : Item) : Leaves besidesKept item.plain? := by
  unfold plain?
  refine .bind (content?_leaves _) fun c => ?_
  split <;> exact .pure _

/-! ## Parts by the kind of their owner -/

@[simp] theorem namesOf_leaves (id : Nat) (s : Surface) : Leaves besidesKept (namesOf id s) := by
  unfold namesOf
  refine .bind (mark?_leaves _ _) fun marked => ?_
  split
  · refine .bind (plain?_leaves _) fun v => .bind (.ofExcept _) fun members => ?_
    split <;> simp
  · split <;> simp

theorem surfacePart_leaves (id : Nat) (s : Surface) (part : String) :
    Leaves besidesKept (surfacePart id s part) := by
  unfold surfacePart
  split <;> simp

theorem tablePart_leaves (id : Nat) (s : Surface) (part : String) :
    Leaves besidesKept (tablePart id s part) := by
  unfold tablePart
  split <;> simp

theorem scopePart_leaves (id : Nat) (s : Surface) (part : String) :
    Leaves besidesKept (scopePart id s part) := by
  unfold scopePart
  split
  · exact tablePart_leaves _ _ _
  · exact tablePart_leaves _ _ _
  · exact .pure _

theorem labelPart_leaves (owner : Item) (label : String) :
    Leaves besidesKept (labelPart owner label) :=
  .ite (lastingText_leaves _ _ _) (constantText_leaves _)

theorem namePart_leaves (surface index : Nat) (n : MetricName) (part : String) :
    Leaves besidesKept (namePart surface index n part) := by
  unfold namePart
  split
  case h_3 => exact labelPart_leaves _ _
  case h_7 => split <;> simp
  all_goals simp

theorem contextPart_leaves (id : Nat) (c : Context) (part : String) :
    Leaves besidesKept (contextPart id c part) := by
  unfold contextPart
  split <;> simp

@[simp] theorem exportNamePart_leaves (owner : Item) (exportName : Value) :
    Leaves besidesKept (exportNamePart owner exportName) := by
  unfold exportNamePart
  split
  · exact .ite (constantText_leaves _) (lastingText_leaves _ _ _)
  · exact lastingValue_leaves _ _ _

@[simp] theorem windowSecondsPart_leaves (owner : Item) (span : Value) :
    Leaves besidesKept (windowSecondsPart owner span) :=
  .ite (.bind (keepAt_leaves _ _) fun _ => .pure _) (lastingValue_leaves _ _ _)

theorem settingsPart_leaves (id : Nat) (s : Settings) (part : String) :
    Leaves besidesKept (settingsPart id s part) := by
  unfold settingsPart
  split <;> simp

theorem registryPart_leaves (id : Nat) (r : AttachedRegistry) (part : String) :
    Leaves besidesKept (registryPart id r part) := by
  unfold registryPart
  split
  case h_4 => exact .bind (mark?_leaves _ _) fun _ => .pure _
  all_goals simp

@[simp] theorem describedPart_leaves (owner : Item) (name type doc : String)
    (labelNames : List String) (part : String) :
    Leaves besidesKept (describedPart owner name type doc labelNames part) := by
  have names : Leaves besidesKept (labelNames.mapM fun l => keepAt (.constant l) (.plain (.str l))) :=
    .mapM (fun _ => keepAt_leaves _ _) _
  have rows : Leaves besidesKept (do
      let names ← labelNames.mapM fun l => keepAt (.constant l) (.plain (.str l))
      lasting owner "_labelnames" (.items "tuple" names)) :=
    .bind names fun _ => lasting_leaves _ _ _
  unfold describedPart
  split
  · exact .ite (constantText_leaves _) (lastingText_leaves _ _ _)
  · exact .ite (constantText_leaves _) (lastingText_leaves _ _ _)
  case h_8 => exact .ite emptyRow_leaves rows
  all_goals simp

theorem seriesPart_leaves (id : Nat) (s : LabelledSeries) (part : String) :
    Leaves besidesKept (seriesPart id s part) := by
  unfold seriesPart
  split <;> simp

@[simp] theorem boundItems_leaves (h : Handle) (bounds : List Float) :
    Leaves besidesKept (boundItems h bounds) :=
  .mapM (fun _ => keepAt_leaves _ _) _

theorem innerPart_leaves (h : Handle) (i : Instrument) (part : String) :
    Leaves besidesKept (innerPart h i part) := by
  unfold innerPart
  dsimp only
  split
  case h_3 => exact .bind (boundItems_leaves _ _) fun _ => lasting_leaves _ _ _
  all_goals simp

theorem instrumentPart_leaves (h : Handle) (i : Instrument) (part : String) :
    Leaves besidesKept (instrumentPart h i part) := by
  unfold instrumentPart
  split <;> simp

theorem totalPart_leaves (h : Handle) (i : Instrument) (part : String) :
    Leaves besidesKept (totalPart h i part) := by
  have value (v : Value) : Leaves besidesKept (do
      if v.kindName = "float" && v.shown = "0.0" then
        return some (← keepAt (.constant "total") (.plain v))
      else lastingValue (total h) "_value" v) :=
    .ite (.bind (keepAt_leaves _ _) fun _ => .pure _) (lastingValue_leaves _ _ _)
  unfold totalPart
  dsimp only
  split
  · exact value _
  · exact value _
  · exact .pure _

theorem statisticsPart_leaves (id : Nat) (s : Statistics) (part : String) :
    Leaves besidesKept (statisticsPart id s part) := by
  unfold statisticsPart
  split <;> simp

theorem enginePart_leaves (id : Nat) (e : Engine) (part : String) :
    Leaves besidesKept (enginePart id e part) := by
  unfold enginePart
  split <;> simp

theorem trackerPart_leaves (id : Nat) (t : Throughput) (part : String) :
    Leaves besidesKept (trackerPart id t part) := by
  unfold trackerPart
  split <;> simp

theorem windowPart_leaves (id : Nat) (d : Direction) (w : Window) (part : String) :
    Leaves besidesKept (windowPart id d w part) := by
  unfold windowPart
  split <;> simp

theorem shownText_leaves (owner : Item) (kept text : String) :
    Leaves besidesKept (shownText owner kept text) := by
  refine .bind (mark?_leaves _ _) fun marked => ?_
  split <;> simp

theorem memberPart_leaves (owner : Item) (symbol text : String) (other : String → Option Item)
    (part : String) : Leaves besidesKept (memberPart owner symbol text other part) := by
  unfold memberPart
  split
  · exact shownText_leaves _ _ _
  · exact shownText_leaves _ _ _
  all_goals simp

/-! ## Parts of plain values and of contents -/

theorem valuePart_leaves (owner : Item) (v : Value) (part : String) :
    Leaves besidesKept (valuePart owner v part) := by
  unfold valuePart
  split
  case h_11 => exact .ite (made_leaves _) (constantText_leaves _)
  case h_12 =>
    split
    · exact lasting_leaves _ _ _
    · exact .ite (lasting_leaves _ _ _) (.pure _)
    · exact .pure _
  all_goals simp

theorem guardedPart_leaves (function : Item) (h : Handle) :
    Leaves besidesKept (guardedPart function h) := by
  refine .bind (.look _) fun i => ?_
  split <;> simp

theorem contentPart_leaves (owner : Item) (c : Content) (part : String) :
    Leaves besidesKept (contentPart owner c part) := by
  unfold contentPart
  split
  case h_1 => exact valuePart_leaves _ _ _
  case h_2 => exact guardedPart_leaves _ _
  case h_5 => exact .ite (constantText_leaves _) (made_leaves _)
  all_goals simp

/-! ## Any part -/

theorem ownPart_leaves (item : Item) (part : String) :
    Leaves besidesKept (item.ownPart part) := by
  cases item with
  | surface id => exact .bind (.look _) fun _ => surfacePart_leaves _ _ _
  | scope id => exact .bind (.look _) fun _ => scopePart_leaves _ _ _
  | table id => exact .bind (.look _) fun _ => tablePart_leaves _ _ _
  | name id index =>
    refine .bind (.look _) fun s => ?_
    split
    · exact namePart_leaves _ _ _ _
    · exact .pure _
  | context id => exact .bind (.look _) fun _ => contextPart_leaves _ _ _
  | settings id => exact .bind (.look _) fun _ => settingsPart_leaves _ _ _
  | registry id => exact .bind (.look _) fun _ => registryPart_leaves _ _ _
  | collector id =>
    unfold ownPart
    dsimp only
    split
    · exact known_leaves _
    · exact .bind (mark?_leaves _ _) fun _ => .guard fun _ => .bind (.look _) fun _ =>
        exportNamePart_leaves _ _
    · exact .pure _
  | target id =>
    unfold ownPart
    dsimp only
    split <;> simp
  | series id => exact .bind (.look _) fun _ => seriesPart_leaves _ _ _
  | instrument h => exact .bind (.look _) fun _ => instrumentPart_leaves _ _ _
  | inner h => exact .bind (.look _) fun _ => innerPart_leaves _ _ _
  | total h => exact .bind (.look _) fun _ => totalPart_leaves _ _ _
  | statistics id => exact .bind (.look _) fun _ => statisticsPart_leaves _ _ _
  | engine id => exact .bind (.look _) fun _ => enginePart_leaves _ _ _
  | tracker id => exact .bind (.look _) fun _ => trackerPart_leaves _ _ _
  | window id d => exact .bind (.look _) fun _ => windowPart_leaves _ _ _ _
  | metricKind k => exact memberPart_leaves _ _ _ _ _
  | statSource s =>
    unfold ownPart
    exact memberPart_leaves _ _ _ _ _
  | kept _ | value _ =>
    refine .bind (content?_leaves _) fun c => ?_
    split
    · exact contentPart_leaves _ _ _
    · exact .pure _
  | rates _ _ _ | store _ _ | parts _ => exact .pure _

theorem table?_leaves (item : Item) : Leaves besidesKept item.table? := by
  refine .bind (kindName_leaves item) fun kind => ?_
  split <;> simp

theorem ofPartKind_leaves (item : Item) (kind part partKind : String) :
    Leaves besidesKept (item.ofPartKind kind part partKind) := by
  unfold ofPartKind
  split
  · exact .pure _
  · exact keepAt_leaves _ _
  · exact keepAt_leaves _ _
  · exact .ite (keepNew_leaves _) (keepAt_leaves _ _)

theorem otherPart_leaves (item : Item) (part : String) :
    Leaves besidesKept (item.otherPart part) := by
  refine .bind (kindName_leaves item) fun kind => .bind (table?_leaves item) fun table => ?_
  split
  · exact ofPartKind_leaves _ _ _ _
  · exact .ite (keepAt_leaves _ _) (.throw _)

/-- Asking for a part changes nothing but what is kept. -/
theorem part_leaves (item : Item) (name : String) : Leaves besidesKept (item.part name) := by
  refine .bind (mark?_leaves item name) fun marked => ?_
  split
  · exact .pure _
  · refine .bind (ownPart_leaves item name) fun own => ?_
    split
    · exact .pure _
    · exact otherPart_leaves item name

theorem require_leaves (item : Item) (name : String) : Leaves besidesKept (item.require name) :=
  .bind (part_leaves item name) fun _ => .pure _

end Item

end StorageMetrics
