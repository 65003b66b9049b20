import StorageMetrics.Instrument.Kind
import StorageMetrics.Label
import StorageMetrics.MetricName
import StorageMetrics.OrderedMap

/-
  Registries: each metric name is bound to one instrument, and the first binding of a name wins.
  Names whose labels differ only in spelling or level share an exported family; a family has one
  shape for as long as it has a member. The family table keeps the shape and the number of members
  of every family, so that a registration is decided without a look at all bindings.
-/

namespace StorageMetrics

structure Family.Entry where
  shape : Shape
  members : Nat
deriving DecidableEq, Inhabited

structure Registry where
  /-- The name that all exported families start with, in plain text. -/
  exportName : Value
  bindings : OrderedMap MetricName Handle := {}
  families : OrderedMap String Family.Entry := {}
deriving Inhabited

/-- What is offered for binding: an instrument, or something that is none. -/
inductive Offer where
  | instrument (handle : Handle)
  | other (kindName : String)
deriving DecidableEq, Inhabited

/-- Why a registry refuses. -/
inductive RegistrationError where
  | unsupported (kindName : String)
  | heldByOtherSeries (name : MetricName) (held offered : InstrumentKind)
  | familyShape (family : String) (shape : Shape) (name : MetricName) (offered : SeriesType)
  /-- Two words stand where the family's shape should be. -/
  | familyWords (family type level : String) (name : MetricName) (offered : SeriesType)
  | otherKind (name : MetricName) (held wanted : InstrumentKind)
  /-- The failure counter's name belongs to a collector of somebody else. -/
  | foreignCollector (counterName : String)
deriving DecidableEq, Inhabited

namespace RegistrationError

/-- What is said of a family that has another shape. -/
def shapeMessage (family type level : String) (name : MetricName) (offered : SeriesType) : String :=
  "family " ++ Text.quoted family ++ " is exported as " ++ type ++ " (level label: " ++ level ++
    "); cannot add a " ++ offered.text ++ " for " ++ name.flat

def message : RegistrationError → String
  | unsupported k => "unsupported metric object " ++ k
  | heldByOtherSeries n held offered =>
    n.flat ++ " already registered as " ++ held.text ++ ", cannot register " ++ offered.text
  | familyShape family shape n offered =>
    shapeMessage family shape.series.text (if shape.leveled then "True" else "False") n offered
  | familyWords family type level n offered => shapeMessage family type level n offered
  | otherKind n held wanted => n.flat ++ " is a " ++ held.text ++ ", not a " ++ wanted.text
  | foreignCollector name => name ++ " is already registered by a foreign collector"

end RegistrationError

/-- A registration that went through: the registry afterwards, the instrument now bound to the
name, and whether it was bound before. -/
structure Registration where
  registry : Registry
  bound : Handle
  reused : Bool

namespace Registry

/-- The family that a label belongs to: spelling and level do not count. -/
def family (r : Registry) (label : String) : String :=
  r.exportName.plain ++ "_" ++ Label.snake (Label.base label)

/-- The shape that a binding of this kind gives to its family. -/
def shapeOf (label : String) (kind : InstrumentKind) : Shape :=
  ⟨kind.series, (Label.level? label).isSome⟩

/-- Binds an unbound name. -/
def bind (r : Registry) (name : MetricName) (h : Handle) : Registry :=
  let family := r.family name.name
  let members := ((r.families.get? family).map (·.members)).getD 0
  { r with
    bindings := r.bindings.insert name h
    families := r.families.insert family ⟨shapeOf name.name h.kind, members + 1⟩ }

/-- Binds the name, or gives the instrument that is bound to it already. The kind of the offer is
looked at first, then the name's binding, then the family's shape. -/
def register (r : Registry) (name : MetricName) (offer : Offer) :
    Except RegistrationError Registration :=
  match offer with
  | .other kindName => .error (.unsupported kindName)
  | .instrument h =>
    match r.bindings.get? name with
    | some held =>
      if held.kind.series ≠ h.kind.series then .error (.heldByOtherSeries name held.kind h.kind)
      else .ok ⟨r, held, true⟩
    | none =>
      let family := r.family name.name
      match r.families.get? family with
      | some entry =>
        if entry.shape ≠ shapeOf name.name h.kind then
          .error (.familyShape family entry.shape name h.kind.series)
        else .ok ⟨r.bind name h, h, false⟩
      | none => .ok ⟨r.bind name h, h, false⟩

/-- The instrument of this very kind under the name; an unbound name gets the fresh one. -/
def obtain (r : Registry) (kind : InstrumentKind) (name : MetricName) (fresh : Nat) :
    Except RegistrationError Registration :=
  match r.bindings.get? name with
  | some held =>
    if held.kind ≠ kind then .error (.otherKind name held.kind kind)
    else r.register name (.instrument held)
  | none => r.register name (.instrument ⟨fresh, kind⟩)

/-- The counter under the name. -/
def counter (r : Registry) (name : MetricName) (fresh : Nat) : Except RegistrationError Registration :=
  r.obtain .counter name fresh

/-- The histogram under the name. -/
def histogram (r : Registry) (name : MetricName) (fresh : Nat) :
    Except RegistrationError Registration :=
  r.obtain .histogram name fresh

/-- A removal that found no entry of the name's family. -/
structure MissingFamily where
  family : String
deriving DecidableEq, Inhabited

/-- Unbinds the name, and tells whether it was bound. The last member takes its family's entry away. -/
def remove (r : Registry) (name : MetricName) : Registry × Except MissingFamily Bool :=
  match r.bindings.get? name with
  | none => (r, .ok false)
  | some _ =>
    let r := { r with bindings := r.bindings.erase name }
    let family := r.family name.name
    match r.families.get? family with
    | none => (r, .error ⟨family⟩)
    | some entry =>
      let families :=
        if entry.members = 1 then r.families.erase family
        else r.families.insert family { entry with members := entry.members - 1 }
      ({ r with families := families }, .ok true)

def get? (r : Registry) (name : MetricName) : Option Handle := r.bindings.get? name

def contains (r : Registry) (name : MetricName) : Bool := (r.get? name).isSome

/-- The bound names, each in the order of its latest binding. -/
def names (r : Registry) : List MetricName := r.bindings.keys

/-- A name is in its own scope, and wherever no scope is given. -/
def isIn (scope : Value) (name : MetricName) : Bool :=
  match scope with
  | .none => true
  | .str s => name.scope = s
  | _ => false

/-- The bound names, or those of one scope. -/
def namesIn (r : Registry) (scope : Value) : List MetricName := r.names.filter (isIn scope)

def size (r : Registry) : Nat := r.bindings.size

end Registry

end StorageMetrics
