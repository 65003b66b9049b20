import StorageMetrics.Host.Basic

/-
  Strays: entries of the library's dictionaries that nothing in the library put there. They stand
  beside the library's own entries, and where both have a key the stray has it. Whoever goes through
  such a dictionary comes first to the own entries ahead of the strays.
-/

namespace StorageMetrics.Host

/-! ## Looking them up -/

def strays? (kind : Store) (owner : Nat) : Action (Option Strays) := do
  return (← get).strays.find? fun s => s.kind = kind && s.owner = owner

def straysOf (kind : Store) (owner : Nat) : Action Answers := do
  return (← strays? kind owner).elim [] (·.entries)

/-- What stands under a key that the library did not put there. -/
def stray? (kind : Store) (owner : Nat) (key : Value) : Action (Option Value) := do
  return (← straysOf kind owner).find key

def hiddenEntries (kind : Store) (owner : Nat) : Action Nat := do
  return (← strays? kind owner).elim 0 (·.hidden)

/-- The own entries of a dictionary that are gone through before the strays, out of all own ones. -/
def entriesAhead (kind : Store) (owner : Nat) (own : List α) : Action (List α) := do
  match ← strays? kind owner with
  | some s =>
    let listed := own.drop s.hidden
    return if s.entries.isEmpty then listed else listed.take s.ahead
  | none => return own

/-! ## Changing them -/

def setStrays (s : Strays) : Action Unit :=
  modify fun h =>
    { h with strays := s :: h.strays.filter fun t => !(t.kind = s.kind && t.owner = s.owner) }

/-- How many entries come before one that is put in last. -/
def ownEntries (kind : Store) (owner : Nat) : Action Nat := do
  match kind with
  | .bindings => return (← getRegistry owner).registry.size
  | .collectors => return (← getTarget owner).length - (← hiddenEntries kind owner)
  | _ => return 0

def putStray (kind : Store) (owner : Nat) (key v : Value) : Action Unit := do
  let hidden ← hiddenEntries kind owner
  match ← straysOf kind owner, ← strays? kind owner with
  | e :: rest, some s => setStrays { s with entries := Answers.put key v (e :: rest) }
  | _, _ => setStrays ⟨kind, owner, [(key, v)], ← ownEntries kind owner, hidden⟩

/-- Takes a stray out. -/
def dropStray (kind : Store) (owner : Nat) (key : Value) : Action Unit := do
  match ← strays? kind owner with
  | some s => setStrays { s with entries := s.entries.filter fun e => !e.1.same key }
  | none => return ()

/-- An own entry is taken out that had so many of them before it. -/
def passOver (kind : Store) (owner position : Nat) : Action Unit := do
  match ← strays? kind owner with
  | some s => if position < s.ahead then setStrays { s with ahead := s.ahead - 1 }
  | none => return ()

/-- Puts an entry into a dictionary. -/
def putEntry (kind : Store) (owner : Nat) (key v : Value) : Action Unit := do
  match kind with
  | .pending => changeEngine owner (·.setPending key v)
  | .live => changeEngine owner (·.setLive key v)
  | _ => putStray kind owner key v

/-! ## Other contents -/

/-- Family shapes and family sizes are kept together, so the sizes stay behind as strays when the
shapes go, and families without members when the sizes go. -/
def clearFamilies (kind : Store) (id : Nat) : Action Unit := do
  let attached ← getRegistry id
  let families := attached.registry.families.entries
  let left := families.map fun e => (e.1, { e.2 with members := 0 })
  if kind = .familyShapes then
    families.forM fun e => do
      if e.2.members ≠ 0 && (← stray? .familySizes id (.str e.1)).isNone then
        putStray .familySizes id (.str e.1) (.int e.2.members)
  setRegistry id { attached with
    registry.families := ⟨if kind = .familyShapes then [] else left⟩ }

/-- Takes the library's own entries out of a dictionary. -/
def clearOwn (kind : Store) (owner : Nat) : Action Unit := do
  match kind with
  | .tickers => changeStatistics owner fun s => { s with tickers := {} }
  | .histograms => changeStatistics owner fun s => { s with histograms := {} }
  | .levelFiles => changeEngine owner fun e => .ok { e with levelFiles := [] }
  | .pending => changeEngine owner fun e => .ok { e with pending := [] }
  | .live => changeEngine owner fun e => .ok { e with live := [] }
  | .bindings =>
    let attached ← getRegistry owner
    setRegistry owner { attached with registry := { attached.registry with bindings := {} } }
  | .familyShapes | .familySizes => clearFamilies kind owner
  | .children => setSeries owner { (← getSeries owner) with children := {} }
  | .claims => setTarget owner ((← getTarget owner).map fun a => { a with claims := [] })
  | .collectors => return ()
  | .levelGauges | .ownNames | .outgoingTransfers | .incomingTransfers => return ()

/-- Gives a dictionary other contents. Collectors go out of theirs without giving up their claims. -/
def refill (kind : Store) (owner : Nat) (entries : Answers) : Action Unit := do
  clearOwn kind owner
  let hidden ← match kind with
    | .collectors => do pure (← getTarget owner).length
    | _ => pure 0
  setStrays ⟨kind, owner, [], 0, hidden⟩
  entries.forM fun e => putEntry kind owner e.1 e.2

end StorageMetrics.Host
