import StorageMetrics.Item
import StorageMetrics.Source.Engine

/-
  What a host keeps for its identity: things that are told apart though they may be alike. A thing
  with a home is the same one whenever its home is asked for it; one without a home was made for
  whoever asked.
-/

namespace StorageMetrics

inductive Content where
  | plain (v : Value)
  /-- A set. -/
  | keys (members : List Value)
  /-- Values in a row that cannot be changed. -/
  | row (kind : String) (members : List Value)
  /-- Items in a row that cannot be changed. -/
  | items (kind : String) (members : List Item)
  /-- What acts for its owner. -/
  | action (kind name : String) (owner : Item)
  /-- Something of which no more is known than its kind and how much it holds. -/
  | sized (kind : String) (size : Nat)
deriving Inhabited

namespace Content

/-- The name of the kind, as refusals show it. -/
def kindName : Content → String
  | plain v => v.kindName
  | keys _ => "set"
  | row kind _ | items kind _ | action kind _ _ | sized kind _ => kind

/-- A value of this kind that shows nothing else. -/
def ofKind (kind : String) : Content := plain (if kind = "NoneType" then .none else .other kind "" "")

/-- No two things of this content are told apart. -/
def isShared : Content → Bool
  | plain v => v.isShared
  | _ => false

/-- How many members an enumeration has. -/
def memberCount? : String → Option Nat
  | "MetricKind" => some MetricKind.all.length
  | "HistogramType" => some HistogramStat.all.length
  | "TickerType" => some TickerStat.all.length
  | _ => none

/-- How much there is in it, if it holds anything. -/
def size? : Content → Option Nat
  | plain (.list xs) | keys xs | row _ xs => some xs.length
  | plain (.str s) => some s.length
  | plain (.mapping entries) => some entries.length
  | plain (.other "EnumType" shown _) => memberCount? shown
  | items _ xs => some xs.length
  | sized _ n => some n
  | plain _ | action .. => none

/-- The same with another member at an index, or under a number. -/
def setMember (c : Content) (name : String) (v : Value) : Content :=
  match c, Decimal.readInt name with
  | plain (.list xs), .ok n => plain (.list (xs.set n.toNat v))
  | plain (.mapping entries), .ok n => plain (.mapping (Answers.put (.int n) v entries))
  | c, _ => c

/-- Whether names can be looked for in it. -/
def isContainer (c : Content) : Bool := c.kindName ∉ ["str", "EnumType"] && c.size?.isSome

/-- Whether values stand under keys. -/
def isDictionary (c : Content) : Bool := c.kindName = "dict"

/-- Nothing but the identity tells one from the other. -/
def alike : Content → Content → Bool
  | plain v, plain w => v.kindName = w.kindName && v.shown = w.shown
  | keys xs, keys ys | row _ xs, row _ ys => Value.sameAll xs ys
  | items _ xs, items _ ys => xs.length = ys.length && (xs.zip ys).all fun p => p.1.same p.2
  | action k m a, action l n b => k = l && m = n && a.same b
  | sized k m, sized l n => k = l && m = n
  | _, _ => false

end Content

/-- Where a kept thing belongs. -/
inductive Home where
  | part (owner : Item) (name : String)
  /-- A text of the library itself. -/
  | constant (text : String)
deriving Inhabited

namespace Home

def same : Home → Home → Bool
  | part a m, part b n => m = n && a.same b
  | constant s, constant t => s = t
  | _, _ => false

def belongsTo (home : Home) (owner : Item) : Bool :=
  match home with
  | part a _ => a.same owner
  | constant _ => false

end Home

structure Kept where
  content : Content
  /-- One thing can belong to several owners. -/
  homes : List Home := []
deriving Inhabited

namespace Kept

def livesAt (k : Kept) (home : Home) : Bool := k.homes.any (·.same home)

def leave (k : Kept) (home : Home) : Kept := { k with homes := k.homes.filter fun other => !other.same home }

/-- What left a home does not live there any more. -/
theorem livesAt_leave (k : Kept) (home : Home) : (k.leave home).livesAt home = false := by
  simp [livesAt, leave]

/-- Leaves every home with this owner. -/
def leaveAll (k : Kept) (owner : Item) : Kept :=
  { k with homes := k.homes.filter fun home => !home.belongsTo owner }

def settle (k : Kept) (home : Home) : Kept := { k with homes := home :: k.homes }

end Kept

end StorageMetrics
