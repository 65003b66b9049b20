import StorageMetrics.Host.Kept
import StorageMetrics.Host.Part

/-
  Marks: parts that items were given from outside. A mark takes the place of an item's own part of
  that name, and whoever needs the part finds the mark instead. What acts cannot be replaced that
  way: a mark is never called.
-/

namespace StorageMetrics

namespace Host

/-- The part that an item was given from outside under a name. -/
def mark? (h : Host) (item : Item) (name : String) : Option Item :=
  (h.marks.find? fun m => m.item.same item && m.name = name).map (·.part)

/-- Without marks every part is the item's own. -/
theorem mark?_of_marks_nil {h : Host} (unmarked : h.marks = []) (item : Item) (name : String) :
    h.mark? item name = none := by
  simp [mark?, unmarked]

end Host

namespace Item

open Host

/-! ## Looking them up -/

/-- The mark in the place of a part. -/
def mark? (item : Item) (name : String) : Action (Option Item) := do
  match (← get).mark? item name with
  | some marked => return if name ∈ derivedParts (← item.kindName) then none else some marked
  | none => return none

/-- The plain value that an item is. -/
def plain? (item : Item) : Action (Option Value) := do
  match ← item.content? with
  | some (.plain v) => return some v
  | _ => return none

/-- The plain value in the place of a part. -/
def markedValue? (item : Item) (name : String) : Action (Option Value) := do
  match ← item.mark? name with
  | some marked => marked.plain?
  | none => return none

/-- Calls a part. A mark in its place cannot be called. -/
def requireUnmarked (item : Item) (name : String) : Action Unit := do
  if (← item.mark? name).isSome then throw (.number .wrongKind)

def requireAllUnmarked (item : Item) (names : List String) : Action Unit :=
  names.forM item.requireUnmarked

/-! ## Changing them -/

def unmark (item : Item) (name : String) : Action Unit :=
  modify fun h => { h with marks := h.marks.filter fun m => !(m.item.same item && m.name = name) }

/-- Gives an item a part. -/
def mark (item : Item) (name : String) (p : Item) : Action Unit := do
  item.unmark name
  modify fun h => { h with marks := ⟨item, name, p⟩ :: h.marks }

/-- Gives an item a part, if it takes any. -/
def markIfOpen (item : Item) (name : String) (p : Item) : Action Unit := do
  let kind ← item.kindName
  if kind ∈ unmarkable then throw .noPart
  if kind ∈ unchangeable then throw .unchangeable
  item.mark name p

end Item

end StorageMetrics
