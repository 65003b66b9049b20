import StorageMetrics.Value

/-
  Numbers: exact integers beside binary64 floats. Order between the two is exact: every finite
  float is a whole number of units of 2^-1074, and numbers are compared by their units. Arithmetic
  that meets a float rounds the integer to the nearest float first, and refuses one beyond its range.
-/

namespace StorageMetrics

inductive Number where
  | int (n : Int)
  | float (x : Float)
deriving Inhabited

/-- Why a number cannot be had from a value, or from a computation. -/
inductive NumberError where
  /-- The value is of a kind that holds no number. -/
  | wrongKind
  /-- An integer beyond the floats, or an infinity where an integer is wanted. -/
  | overflow
  | nanToInt
  | notAnInteger (quoted : String)
  | notADecimal (quoted : String)
  | tooManyDigits (count : Nat)
  /-- An integer is to be written out that has too many digits. -/
  | tooLongToWrite
deriving DecidableEq

/-- Where a number lies: NaN lies nowhere, a finite number has its count of 2^-1074 units. -/
inductive Magnitude where
  | nan
  | negInfinite
  | finite (units : Int)
  | infinite
deriving DecidableEq

namespace Magnitude

/-- Units in one. -/
def one : Int := Nat.pow 2 1074

/-- The order of the extended real line; NaN is below and above nothing. -/
def le : Magnitude → Magnitude → Bool
  | nan, _ => false
  | _, nan => false
  | negInfinite, _ => true
  | _, infinite => true
  | finite a, finite b => a ≤ b
  | _, _ => false

def lt (a b : Magnitude) : Bool := a.le b && !b.le a

def eq (a b : Magnitude) : Bool := a.le b && b.le a

theorem le_trans {a b c : Magnitude} (hab : a.le b = true) (hbc : b.le c = true) :
    a.le c = true := by
  cases a <;> cases b <;> cases c <;> simp_all [le]
  omega

theorem le_total {a b : Magnitude} (ha : a ≠ nan) (hb : b ≠ nan) :
    a.le b = true ∨ b.le a = true := by
  cases a <;> cases b <;> simp_all [le]
  omega

theorem le_refl {a : Magnitude} (h : a ≠ nan) : a.le a = true := by
  cases a <;> simp_all [le]

end Magnitude

/-- Reads sign, exponent and fraction off the bits. A subnormal float is its fraction in units; a
normal one is its fraction with the hidden bit, shifted by its exponent. -/
def Magnitude.ofFloat (x : Float) : Magnitude :=
  let bits : Nat := x.toBits.toNat
  let negative := bits / Nat.pow 2 63 = 1
  let exponent : Nat := bits / Nat.pow 2 52 % 2048
  let fraction : Nat := bits % Nat.pow 2 52
  if exponent = 2047 then
    if fraction ≠ 0 then .nan else if negative then .negInfinite else .infinite
  else
    let units : Nat := if exponent = 0 then fraction else (Nat.pow 2 52 + fraction) <<< (exponent - 1)
    .finite (if negative then -(units : Int) else units)

namespace Number

def magnitude : Number → Magnitude
  | int n => .finite (n * Magnitude.one)
  | float x => .ofFloat x

instance : LE Number := ⟨fun a b => a.magnitude.le b.magnitude = true⟩
instance : LT Number := ⟨fun a b => a.magnitude.lt b.magnitude = true⟩
instance (a b : Number) : Decidable (a ≤ b) := inferInstanceAs (Decidable (_ = true))
instance (a b : Number) : Decidable (a < b) := inferInstanceAs (Decidable (_ = true))

/-- The same place on the line; NaN equals nothing. -/
def same (a b : Number) : Bool := a.magnitude.eq b.magnitude

theorem le_trans {a b c : Number} (hab : a ≤ b) (hbc : b ≤ c) : a ≤ c :=
  Magnitude.le_trans (a := a.magnitude) (b := b.magnitude) (c := c.magnitude) hab hbc

/-- The nearest float, ties to even; an integer beyond the floats is refused. -/
def toFloat : Number → Except NumberError Float
  | int n =>
    let x := Float.ofInt n
    if x.isFinite then .ok x else .error .overflow
  | float x => .ok x

/-- The integer part: fractions are cut off toward zero. -/
def truncate : Number → Except NumberError Int
  | int n => .ok n
  | float x =>
    match Magnitude.ofFloat x with
    | .nan => .error .nanToInt
    | .finite units => .ok (units.tdiv Magnitude.one)
    | _ => .error .overflow

/-- Two integers combine exactly; otherwise both are taken as floats. -/
def combine (exact : Int → Int → Int) (rounded : Float → Float → Float) (a b : Number) :
    Except NumberError Number :=
  match a, b with
  | int m, int n => .ok (int (exact m n))
  | a, b => do
    let x ← a.toFloat
    let y ← b.toFloat
    return float (rounded x y)

def add (a b : Number) : Except NumberError Number := combine (· + ·) (· + ·) a b

def sub (a b : Number) : Except NumberError Number := combine (· - ·) (· - ·) a b

theorem add_int (m n : Int) : add (int m) (int n) = .ok (int (m + n)) := rfl

theorem sub_int (m n : Int) : sub (int m) (int n) = .ok (int (m - n)) := rfl

def toValue : Number → Value
  | int n => .int n
  | float x => .float x

end Number

namespace Value

/-- The number a value stands for; texts, lists and a missing value stand for none. -/
def number? : Value → Option Number
  | bool b => some (.int (if b then 1 else 0))
  | int n => some (.int n)
  | float x => some (.float x)
  | _ => Option.none

def number (v : Value) : Except NumberError Number :=
  match v.number? with
  | some n => .ok n
  | Option.none => .error .wrongKind

mutual

/-- Equality of values: numbers by place, texts by content, lists member by member, mappings entry by
entry in whatever order. -/
def same : Value → Value → Bool
  | none, none => true
  | str s, str t => s = t
  | list xs, list ys => sameAll xs ys
  | mapping xs, mapping ys => xs.length = ys.length && sameEntries xs ys
  | other kind shown _, other kind' shown' _ => kind = kind' && shown = shown'
  | a, b =>
    match a.number?, b.number? with
    | some m, some n => m.same n
    | _, _ => false

def sameAll : List Value → List Value → Bool
  | [], [] => true
  | x :: xs, y :: ys => same x y && sameAll xs ys
  | _, _ => false

/-- Each entry of the first is one of the second. -/
def sameEntries : List (Value × Value) → List (Value × Value) → Bool
  | [], _ => true
  | (k, x) :: xs, ys => ys.any (fun e => same k e.1 && same x e.2) && sameEntries xs ys

end

/-- Lists and mappings cannot be keys. -/
def isKey : Value → Bool
  | list _ => false
  | mapping _ => false
  | _ => true

/-- The sum of two values: numbers are added, texts and lists joined. -/
def add (a b : Value) : Except NumberError Value :=
  match a, b with
  | str s, str t => .ok (str (s ++ t))
  | list xs, list ys => .ok (list (xs ++ ys))
  | a, b => do return (← (← a.number).add (← b.number)).toValue

end Value

end StorageMetrics
