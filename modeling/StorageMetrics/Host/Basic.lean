import StorageMetrics.Exposition.Target
import StorageMetrics.Files.Making
import StorageMetrics.Instrument.Basic
import StorageMetrics.Item.Content
import StorageMetrics.Journal
import StorageMetrics.Source.Engine
import StorageMetrics.Source.Statistics
import StorageMetrics.Surface

/-
  The host process: the sources that instruments ask, the instruments themselves, the registries
  and targets that export them, and the process-wide context. Each is known by its number, so that
  one instrument can be bound in several registries and one source asked by several instruments.
  An action runs over the host and may fail; what it did before it failed stays done.
-/

namespace StorageMetrics

/-- A registry on its target. It has no failure counter as long as it is being attached. -/
structure AttachedRegistry where
  registry : Registry
  target : Nat
  failures : Option Nat := none
deriving Inhabited

/-- The shared collaborators of all tables of a process. -/
structure Context where
  settings : Settings
  engine : Item
  registry : Nat
  flow : Item
  outgoing : Handle
  incoming : Handle
deriving Inhabited

/-- A part that an item was given from outside. -/
structure Mark where
  item : Item
  name : String
  part : Item
deriving Inhabited

/-- Entries of a dictionary that nothing in the library put there. -/
structure Strays where
  kind : Store
  owner : Nat
  entries : Answers
  /-- How many of the library's own entries come before the first of them. -/
  ahead : Nat
  /-- How many own entries went out of the dictionary without being taken out. -/
  hidden : Nat := 0

structure Host where
  clock : Value := .float 0
  /-- A cell holds a value, or fails with a message. -/
  cells : OrderedMap String (Except String Value) := {}
  statistics : Array Statistics := #[]
  engines : Array Engine := #[]
  trackers : Array Throughput := #[]
  /-- How many pairs of cells were made sources of throughput. -/
  cellPairs : Nat := 0
  instruments : Array Instrument := #[]
  series : Array LabelledSeries := #[]
  targets : Array Target := #[]
  registries : Array AttachedRegistry := #[]
  contexts : Array Context := #[]
  surfaces : Array Surface := #[]
  /-- What was published as the context of the process. -/
  anchor : Option Item := none
  marks : List Mark := []
  kept : Array Kept := #[]
  strays : List Strays := []
  files : Files := {}
  journal : Journal := []
  /-- The rank from which on reports are written out, where any are. -/
  writtenFrom : Option Int := none
deriving Inhabited

/-- Whether reports of this severity are written out. -/
def Host.writes (h : Host) (s : Severity) : Bool := h.writtenFrom.any (· ≤ (s.rank : Int))

/-- A computation over the host that may fail; a failure keeps the host as it stands then. -/
abbrev Action := EStateM Fault Host

namespace Action

/-- A computation without effects. -/
def ofExcept (x : Except Fault α) : Action α :=
  match x with
  | .ok a => pure a
  | .error e => throw e

/-- What is known under a number. -/
def known (x : Option α) : Action α :=
  match x with
  | some a => pure a
  | none => throw .unknown

/-- What something has, if it has it. -/
def part (x : Option α) : Action α :=
  match x with
  | some a => pure a
  | none => throw .noPart

/-- The outcome of an action, its failure included. -/
def outcome (t : Action α) : Action (Except Fault α) := fun h =>
  match t h with
  | .ok a h => .ok (.ok a) h
  | .error e h => .ok (.error e) h

/-- Work on the files of the host. -/
def ofFiling (t : Filing α) : Action α := fun h =>
  match t h.files with
  | .ok a files => .ok a { h with files := files }
  | .error e files => .error (.file e) { h with files := files }

def report (e : JournalEntry) : Action Unit :=
  modify fun h => { h with journal := h.journal ++ [e] }

/-- A step that succeeds hands its answer to the steps after it. -/
theorem bind_of_ok {x : Action α} {h h' : Host} {a : α} (ran : x h = .ok a h') (f : α → Action β) :
    (x >>= f) h = f a h' := by
  simp [bind, EStateM.bind, ran]

end Action

namespace Host

def addStatistics : Action Nat := fun h =>
  .ok h.statistics.size { h with statistics := h.statistics.push {} }

def addEngine : Action Nat := fun h => .ok h.engines.size { h with engines := h.engines.push {} }

def addTrackerOf (t : Throughput) : Action Nat := fun h =>
  .ok h.trackers.size { h with trackers := h.trackers.push t }

/-- A source of throughput whose rates two cells give. -/
def addCellPair (outgoing incoming : String) : Action Item := fun h =>
  .ok (.rates h.cellPairs outgoing incoming) { h with cellPairs := h.cellPairs + 1 }

def addContext (c : Context) : Action Nat := fun h =>
  .ok h.contexts.size { h with contexts := h.contexts.push c }

def addSurface (s : Surface) : Action Nat := fun h =>
  .ok h.surfaces.size { h with surfaces := h.surfaces.push s }

def addInstrument (i : Instrument) : Action Handle := fun h =>
  .ok ⟨h.instruments.size, i.kind⟩ { h with instruments := h.instruments.push i }

def addSeries (s : LabelledSeries) : Action Nat := fun h =>
  .ok h.series.size { h with series := h.series.push s }

def addTarget : Action Nat := fun h => .ok h.targets.size { h with targets := h.targets.push [] }

def setCell (name : String) (contents : Except String Value) : Action Unit :=
  modify fun h => { h with cells := h.cells.insert name contents }

/-- Sets the clock to whatever it shows from now on, and gives that. -/
def setClock (time : Value) : Action Value := fun h => .ok time { h with clock := time }

/-- Moves the clock on, and gives its new time. -/
def advanceClock (span : Value) : Action Value := do
  setClock (← Action.ofExcept (((← get).clock.add span).mapError .number))

def getStatistics (id : Nat) : Action Statistics := do Action.known (← get).statistics[id]?

def getEngine (id : Nat) : Action Engine := do Action.known (← get).engines[id]?

def getTracker (id : Nat) : Action Throughput := do Action.known (← get).trackers[id]?

def getInstrument (h : Handle) : Action Instrument := do Action.known (← get).instruments[h.id]?

def getSeries (id : Nat) : Action LabelledSeries := do Action.known (← get).series[id]?

def getTarget (id : Nat) : Action Target := do Action.known (← get).targets[id]?

def getRegistry (id : Nat) : Action AttachedRegistry := do Action.known (← get).registries[id]?

def getContext (id : Nat) : Action Context := do Action.known (← get).contexts[id]?

def getSurface (id : Nat) : Action Surface := do Action.known (← get).surfaces[id]?

def getKept (id : Nat) : Action Kept := do Action.known (← get).kept[id]?

def setStatistics (id : Nat) (s : Statistics) : Action Unit :=
  modify fun h => { h with statistics := h.statistics.setIfInBounds id s }

def setEngine (id : Nat) (e : Engine) : Action Unit :=
  modify fun h => { h with engines := h.engines.setIfInBounds id e }

def changeStatistics (id : Nat) (f : Statistics → Statistics) : Action Unit := do
  setStatistics id (f (← getStatistics id))

def changeEngine (id : Nat) (f : Engine → Except EngineError Engine) : Action Unit := do
  setEngine id (← Action.ofExcept ((f (← getEngine id)).mapError .engine))

def setTracker (id : Nat) (t : Throughput) : Action Unit :=
  modify fun h => { h with trackers := h.trackers.setIfInBounds id t }

def setInstrument (h : Handle) (i : Instrument) : Action Unit :=
  modify fun host => { host with instruments := host.instruments.setIfInBounds h.id i }

def setSeries (id : Nat) (s : LabelledSeries) : Action Unit :=
  modify fun h => { h with series := h.series.setIfInBounds id s }

def setTarget (id : Nat) (t : Target) : Action Unit :=
  modify fun h => { h with targets := h.targets.setIfInBounds id t }

def setContext (id : Nat) (c : Context) : Action Unit :=
  modify fun h => { h with contexts := h.contexts.setIfInBounds id c }

def setSurface (id : Nat) (s : Surface) : Action Unit :=
  modify fun h => { h with surfaces := h.surfaces.setIfInBounds id s }

def setRegistry (id : Nat) (r : AttachedRegistry) : Action Unit :=
  modify fun h => { h with registries := h.registries.setIfInBounds id r }

end Host

end StorageMetrics
