import StorageMetrics.Host.Reading

/-
  The family tables of a registry where something else was put into them. A shape that was put
  there holds back all instruments of its family, since no instrument has it; a missing value stands
  for no shape. A size that was put there is counted on from, up and down.
-/

namespace StorageMetrics.Host

/-! ## Shapes -/

/-- One of the two words of a shape. -/
def shapeWord (shape : Value) (index : Nat) : Except Fault String :=
  match shape with
  | .mapping entries =>
    match Answers.find (.int index) entries with
    | some v => .ok v.plain
    | none => .error .noEntry
  | shape =>
    match shape.members? with
    | some members => ((members[index]?).map fun v => .ok v.plain).getD (.error .noMember)
    | none => .error (.number .wrongKind)

/-- The refusal of an instrument by a shape that was put in its way. -/
def shapeRefusal (family : String) (shape : Value) (name : MetricName) (offered : SeriesType) :
    Fault :=
  match shapeWord shape 0, shapeWord shape 1 with
  | .ok type, .ok level => .registration (.familyWords family type level name offered)
  | .error e, _ => e
  | _, .error e => e

/-- Another entry for a family, or none. -/
def setFamily (id : Nat) (family : String) (entry : Option Family.Entry) : Action Unit := do
  let attached ← getRegistry id
  let families := attached.registry.families
  setRegistry id { attached with
    registry.families := entry.elim (families.erase family) (families.insert family) }

/-- From now on a family has no shape, though it keeps its size. -/
def forgetShape (id : Nat) (family : String) : Action Unit := do
  dropStray .familyShapes id (.str family)
  if let some entry := (← getRegistry id).registry.families.get? family then
    if entry.members ≠ 0 && (← stray? .familySizes id (.str family)).isNone then
      putStray .familySizes id (.str family) (.int entry.members)
    setFamily id family none

/-! ## Sizes -/

/-- Counts a member up where the size is not the registry's own. Where that fails the family has its
shape already. -/
def countMember (id : Nat) (family : String) (shape : Shape) : Action Unit := do
  let counted ← Action.outcome do
    requireOwn (.registry id) "_family_members" "get"
    if let some size ← stray? .familySizes id (.str family) then
      let size ← Action.ofExcept ((size.add (.int 1)).mapError .number)
      putStray .familySizes id (.str family) size
  if let .error e := counted then
    if ((← getRegistry id).registry.families.get? family).isNone then
      setFamily id family (some ⟨shape, 0⟩)
    throw e

/-- Takes a family away that has no member left. -/
def dropFamily (id : Nat) (family : String) : Action Unit := do
  (Item.registry id).requireUnmarked "_family_types"
  let hasEntry := ((← getRegistry id).registry.families.get? family).isSome
  if !hasEntry && (← stray? .familyShapes id (.str family)).isNone then
    throw (.missingFamily family)
  setFamily id family none
  dropStray .familyShapes id (.str family)

/-- Counts a member down where the size is not the registry's own. -/
def uncountMember (id : Nat) (family : String) (size : Value) : Action Unit := do
  let left ← Action.ofExcept ((size.number.bind (·.sub (.int 1))).mapError .number)
  if left.toValue.isPresent then putStray .familySizes id (.str family) left.toValue
  else
    dropStray .familySizes id (.str family)
    if let some entry := (← getRegistry id).registry.families.get? family then
      setFamily id family (some { entry with members := 0 })
    dropFamily id family

/-! ## Registrations and removals -/

/-- Something was put into the dictionaries of a registry, or in the place of one of its parts. -/
def isAltered (h : Host) (id : Nat) : Bool :=
  h.strays.any (fun s => s.kind ∈ [.bindings, .familyShapes, .familySizes] && s.owner = id) ||
    h.marks.any fun m => m.item.same (.registry id)

/-- Makes way for an instrument in the family of an unbound name. -/
def enterFamily (id : Nat) (name : MetricName) (h : Handle) : Action Unit := do
  (Item.registry id).requireUnmarked "family_name"
  requireOwn (.registry id) "_family_types" "get"
  let family := (← getRegistry id).registry.family name.name
  match ← stray? .familyShapes id (.str family) with
  | some .none => forgetShape id family
  | some shape => throw (shapeRefusal family shape name h.kind.series)
  | none => pure ()
  let shape := Registry.shapeOf name.name h.kind
  if ((← getRegistry id).registry.families.get? family).all (·.shape = shape) then
    countMember id family shape

/-- Makes way for an instrument under a name, unless the name is bound. -/
def makeWay (id : Nat) (name : MetricName) (h : Handle) : Action Unit := do
  if isAltered (← get) id then
    if !(← getRegistry id).registry.contains name then enterFamily id name h

/-- Unbinds a bound name where something else is in the way. The name is free even if its family
cannot be told, or its size. -/
def unbind (id : Nat) (name : MetricName) : Action Unit := do
  let attached ← getRegistry id
  let r := attached.registry
  let family := r.family name.name
  passOver .bindings id (r.names.idxOf name)
  setRegistry id { attached with registry.bindings := r.bindings.erase name }
  (Item.registry id).requireAllUnmarked ["family_name", "_family_members"]
  match ← stray? .familySizes id (.str family) with
  | some size => uncountMember id family size
  | none =>
    match r.families.get? family with
    | none => throw (.missingFamily family)
    | some entry =>
      if entry.members = 0 then throw (.missingFamily family)
      setFamily id family (some { entry with members := entry.members - 1 })
      if entry.members = 1 then dropFamily id family

end StorageMetrics.Host
