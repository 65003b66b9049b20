import StorageMetrics.Decimal.Layout
import StorageMetrics.Value.Members
import StorageMetrics.Value.Text

/-
  Histograms that their owners write: ascending bounds that end at infinity, a count per bucket and
  a running sum. A value falls into the first bucket whose bound it does not exceed; readings give
  the counts cumulated over the bounds.
-/

namespace StorageMetrics

/-- Why a histogram cannot be made. -/
inductive HistogramError where
  | number (reason : NumberError)
  | unsorted
  | tooFew
deriving DecidableEq, Inhabited

def HistogramError.message : HistogramError → Option String
  | number reason => reason.message
  | unsorted => some "Buckets not in sorted order"
  | tooFew => some "Must have at least two buckets"

structure Histogram where
  /-- What was said about the bounds: when it is present, they were chosen for times in microseconds. -/
  biased : Value
  bounds : List Float
  /-- One count per bound: the values in that bucket alone. -/
  counts : List Nat
  /-- The running sum: a float, unless something else was put there. -/
  total : Value
deriving Inhabited

namespace Histogram

/-- Bounds for times in microseconds. -/
def microsecondBounds : List Float :=
  [10, 25, 50, 100, 250, 500, 1000, 2500, 5000, 10000, 25000, 50000, 100000, 250000, 500000,
   1000000, 2500000, 5000000, 10000000, 1 / 0]

/-- Bounds for times in seconds. -/
def secondBounds : List Float :=
  [0.005, 0.01, 0.025, 0.05, 0.075, 0.1, 0.25, 0.5, 0.75, 1, 2.5, 5, 7.5, 10, 1 / 0]

/-- No bound is below the one before it. -/
def ascending : List Float → Bool
  | a :: b :: rest => !(Number.float b < .float a : Bool) && ascending (b :: rest)
  | _ => true

/-- The bounds with infinity at the end. -/
def close (bounds : List Float) : List Float :=
  match bounds.getLast? with
  | some b => if b = 1 / 0 then bounds else bounds ++ [1 / 0]
  | none => []

/-- An empty histogram over these bounds. -/
def ofBounds (biased : Value) (bounds : List Float) : Except HistogramError Histogram :=
  if !ascending bounds then .error .unsorted
  else
    let bounds := close bounds
    if bounds.length < 2 then .error .tooFew
    else .ok ⟨biased, bounds, bounds.map fun _ => 0, .float 0⟩

/-- An empty histogram over one of the two layouts. -/
def standard (biased : Value) : Histogram :=
  let bounds := if biased.isPresent then microsecondBounds else secondBounds
  ⟨biased, bounds, bounds.map fun _ => 0, .float 0⟩

/-- An empty histogram; without bounds of its own it takes one of the two layouts. Each member of the
bounds stands for one. -/
def ofValues (biased : Value) (bounds : Value) : Except HistogramError Histogram :=
  match bounds with
  | .none => .ok (standard biased)
  | v =>
    match v.members.bind fun xs => xs.mapM Value.toFloat with
    | .ok bounds => ofBounds biased bounds
    | .error e => .error (.number e)

/-- Counts the value in the first bucket whose bound is not below it; NaN falls into none. -/
def countIn (v : Number) : List Float → List Nat → List Nat
  | b :: bounds, n :: counts =>
    if v ≤ .float b then (n + 1) :: counts else n :: countIn v bounds counts
  | _, counts => counts

/-- Adds a value. The sum is tried first, so what a sum of floats refuses changes nothing. -/
def update (h : Histogram) (value : Value) : Except NumberError Unit × Histogram :=
  match h.total.grow value with
  | .error e => (.error e, h)
  | .ok total =>
    match value.number with
    | .error e => (.error e, { h with total := total })
    | .ok v => (.ok (), { h with total := total, counts := countIn v h.bounds h.counts })

/-- The same with other bounds: numbers, of which there are some and no more than buckets. -/
def withBounds? (h : Histogram) (bounds : Value) : Option Histogram :=
  match bounds with
  | .list (b :: rest) =>
    match (b :: rest).mapM fun v => (v.number?).bind fun n => n.toFloat.toOption with
    | some xs =>
      if xs.length ≤ h.counts.length then
        some { h with bounds := xs, counts := h.counts.take xs.length }
      else none
    | none => none
  | _ => none

/-- Running sums, from `start` on. -/
def cumulate (start : Nat) : List Nat → List Nat
  | [] => []
  | n :: rest => (start + n) :: cumulate (start + n) rest

/-- Each bound's text with the number of values up to it. -/
def buckets (h : Histogram) : List (String × Nat) :=
  (h.bounds.map Decimal.boundText).zip (cumulate 0 h.counts)

/-- The number of counted values. -/
def count (h : Histogram) : Nat := (cumulate 0 h.counts).getLastD 0

/-- A sum is reported only for bounds that start at zero or above. -/
def hasSum (h : Histogram) : Bool :=
  match h.bounds with
  | b :: _ => (Number.int 0 ≤ .float b : Bool)
  | [] => false

/-- Count and sum stand beside the buckets where a sum is reported and there is one. -/
def isSummed (h : Histogram) : Bool := h.hasSum && !(h.total matches .none)

/-- The sum as reported: zero where none is. -/
def sum (h : Histogram) : Value := if h.hasSum then h.total else .float 0

end Histogram

end StorageMetrics
