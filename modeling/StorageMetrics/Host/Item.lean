import StorageMetrics.Host.Part.Known

/-
  Parts and members of items, and what items hold. A part is reached by its name, a member of a list
  by its index, an entry of a dictionary by a number that is its key.
-/

namespace StorageMetrics

namespace Item

open Host

/-! ## Parts -/

/-- The parts that an item has by its kind. -/
def table? (item : Item) : Action PartTable := do
  let kind ← item.kindName
  match item with
  | series _ => return seriesParts true ++ commonParts
  | inner h => return seriesParts (h.kind = .counter) ++ commonParts
  | _ => return partsOf kind

/-- The kind of an item, series told from instruments of the same name. -/
def family (item : Item) (kind : String) : String :=
  match item with
  | series _ | inner _ => "series " ++ kind
  | _ => kind

/-- A part of this kind. What acts for the item is made anew each time. -/
def ofPartKind (item : Item) (kind part partKind : String) : Action Item :=
  match part, partKind with
  | "__dict__", "dict" => return parts item
  | "__class__", type | "__objclass__", type =>
    keepAt (.constant ("class " ++ kind)) (.plain (.other type kind kind))
  | _, _ =>
    if partKind ∈ ["method", operation, skill] then keepNew (.action partKind part item)
    else
      let home := if part ∈ kindParts then .constant (item.family kind ++ " " ++ part) else .part item part
      keepAt home (.ofKind partKind)

/-- A part of which only the kind is known. -/
def otherPart (item : Item) (part : String) : Action Item := do
  let kind ← item.kindName
  match (← item.table?).kindOf? part with
  | some partKind => item.ofPartKind kind part partKind
  | none =>
    if kind ∈ unchangeable && part ∈ ["__match_args__", "__annotations__", "__dataclass_fields__"] then
      keepAt (.constant (kind ++ " " ++ part))
        (.sized (if part = "__match_args__" then "tuple" else "dict") (attributes kind).length)
    else throw .noPart

/-- The part of this name. -/
def part (item : Item) (name : String) : Action Item := do
  match ← item.mark? name with
  | some marked => return marked
  | none =>
    match ← item.ownPart name with
    | some p => return p
    | none => item.otherPart name

/-- The dictionary that an item keeps as this part. -/
def dictionary? (item : Item) (name : String) : Action (Option (Store × Nat)) := do
  match item with
  | statistics _ | engine _ | registry _ | series _ | target _ =>
    match ← item.ownPart name with
    | some (.store kind id) => return if kind.isDictionary then some (kind, id) else none
    | _ => return none
  | _ => return none

/-- Makes sure that there is a part of this name. -/
def require (item : Item) (name : String) : Action Unit := do
  let _ ← item.part name

/-! ## Members -/

/-- A member of a list by its index. -/
def memberAt (members : List α) (index : Int) : Action α :=
  match members[index.toNat]? with
  | some x => return x
  | none => throw .noMember

/-- The answer under a number. -/
def entryAt (owner : Item) (entries : List (Value × Value)) (key : Int) : Action Item :=
  match Answers.find (.int key) entries with
  | some v => keepAt (.part owner (toString key)) (.plain v)
  | none => throw .noEntry

/-- A member of a list that the host keeps. -/
def valueAt (owner : Item) (members : List Value) (index : Int) : Action Item := do
  keepAt (.part owner (toString index)) (.plain (← memberAt members index))

def transferAt (owner : Item) (w : Window) (index : Int) : Action Item := do
  let t ← memberAt w.transfers index
  keepAt (.part owner (toString index)) (.row "tuple" [t.time, t.bytes.toValue])

def storeMember (kind : Store) (id : Nat) (index : Int) : Action Item := do
  let owner := store kind id
  match kind with
  | .levelGauges => return instrument (← memberAt (← getSurface id).levels index)
  | .ownNames => return name id (← memberAt (← getSurface id).placed index).2
  | .pending => entryAt owner (← getEngine id).pending index
  | .live => entryAt owner (← getEngine id).live index
  | .outgoingTransfers => transferAt owner (← getTracker id).outgoing index
  | .incomingTransfers => transferAt owner (← getTracker id).incoming index
  | _ => entryAt owner (← straysOf kind id) index

def contentMember (owner : Item) (c : Content) (index : Int) : Action Item :=
  match c with
  | .items _ members => memberAt members index
  | .row _ members | .plain (.list members) => valueAt owner members index
  | .plain (.mapping entries) => entryAt owner entries index
  | .plain (.str s) => do
    keepNew (.plain (.str (String.ofList [← memberAt s.toList index])))
  | .sized "dict" _ => throw .noEntry
  | .plain (.other "EnumType" ..) => throw .noEntry
  | _ => throw (.number .wrongKind)

/-- The member at an index, or under a number. -/
def member (item : Item) (index : Int) : Action Item := do
  match item with
  | store kind id => storeMember kind id index
  | parts _ => throw .noEntry
  | _ =>
    match ← item.content? with
    | some c => contentMember item c index
    | none => throw (.number .wrongKind)

/-- Goes from item to item, by the names of parts and the indices of members. -/
def follow (item : Item) : List String → Action Item
  | [] => return item
  | step :: rest => do
    let next ←
      if step ≠ "" && step.toList.all Text.isNumeralSign then
        item.member (← Action.ofExcept ((Decimal.readInt step).mapError .number))
      else item.part step
    next.follow rest

/-! ## What items hold -/

/-- The own keys of a dictionary under which strays can be, too. -/
def sharedKeys (kind : Store) (owner : Nat) : Action (List String) := do
  match kind with
  | .familyShapes => return (← getRegistry owner).registry.families.keys
  | .familySizes =>
    let families := (← getRegistry owner).registry.families.entries
    return (families.filter (·.2.members ≠ 0)).map (·.1)
  | .claims => return (← getTarget owner).claimed
  | _ => return []

/-- How much the library keeps in a store. -/
def storeSize (kind : Store) (owner : Nat) : Action Nat := do
  match kind with
  | .tickers => return (← getStatistics owner).tickers.size
  | .histograms => return (← getStatistics owner).histograms.size
  | .levelFiles => return ((← getEngine owner).levelFiles.flatMap (·.2)).length
  | .pending => return (← getEngine owner).pending.length
  | .live => return (← getEngine owner).live.length
  | .levelGauges => return (← getSurface owner).levels.length
  | .ownNames => return (← getSurface owner).placed.length
  | .bindings => return (← getRegistry owner).registry.size
  | .familyShapes | .familySizes => return (← sharedKeys kind owner).length
  | .children => return (← getSeries owner).children.size
  | .outgoingTransfers => return (← getTracker owner).outgoing.transfers.length
  | .incomingTransfers => return (← getTracker owner).incoming.transfers.length
  | .collectors => return (← getTarget owner).length - (← hiddenEntries kind owner)
  | .claims => return (← sharedKeys kind owner).length

/-- The names under which an item keeps parts. What guards a function keeps that. -/
def keptNames (owner : Item) : Action (List String) := do
  let names := attributes (← owner.kindName)
  return if (← owner.ownPart "__wrapped__").isSome then "__wrapped__" :: names else names

/-- The parts that an item keeps under their names, those included that it was given. -/
def partCount (owner : Item) : Action Nat := do
  let names ← owner.keptNames
  let marks := (← get).marks.filter fun m => m.item.same owner && !(m.name ∈ names)
  return names.length + marks.length

/-- How much there is in a store; a key counts once. -/
def fullSize (kind : Store) (owner : Nat) : Action Nat := do
  let shared ← sharedKeys kind owner
  let strays := (← straysOf kind owner).filter fun e => !(shared.any fun key => e.1.same (.str key))
  return (← storeSize kind owner) + strays.length

/-- How much an item holds; what holds nothing has no size. -/
def size (item : Item) : Action Nat := do
  match item with
  | registry id =>
    item.requireUnmarked "_lock"
    match ← item.markedValue? "_metrics" with
    | some v =>
      match (Content.plain v).size? with
      | some n => return n
      | none => throw (.number .wrongKind)
    | none => fullSize .bindings id
  | store kind owner => fullSize kind owner
  | parts owner => partCount owner
  | _ =>
    match (← item.content?).bind (·.size?) with
    | some n => return n
    | none => throw (.number .wrongKind)

/-- Whether names can be looked for in an item. -/
def isContainer (item : Item) : Action Bool := do
  match item with
  | registry _ | store .. | parts _ => return true
  | _ => return (← item.content?).any (·.isContainer)

/-- The registry whose names an item tells. -/
def names? : Item → Option Nat
  | registry id | store .bindings id => some id
  | _ => none

/-- Whether values stand under keys. -/
def isDictionary (item : Item) : Action Bool := do
  match item with
  | store kind _ => return kind.isDictionary
  | parts _ => return true
  | _ => return (← item.content?).any (·.isDictionary)

/-- Whether values are looked up in it by their keys, be it only to be read. -/
def isLookedUp (item : Item) : Action Bool := do
  return (← item.isDictionary) || (← item.kindName) = "mappingproxy"

end Item

end StorageMetrics
