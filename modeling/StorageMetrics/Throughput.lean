import StorageMetrics.Value.Text

/-
  Throughput: bytes per second over a sliding window, one window per direction. A window keeps the
  transfers that are younger than its span and their running total; old ones are evicted whenever
  the window is written or read, the oldest first, and eviction stops at the first young one.
-/

namespace StorageMetrics

/-- Why a window or a transfer is refused, or a rate cannot be told. -/
inductive ThroughputError where
  | number (reason : NumberError)
  | windowNotPositive
  | negativeBytes
deriving DecidableEq, Inhabited

def ThroughputError.message : ThroughputError → Option String
  | number reason => reason.message
  | windowNotPositive => some "window_seconds must be > 0"
  | negativeBytes => some "nbytes must be >= 0"

/-- A transfer: what the clock showed, and how many bytes. -/
structure Transfer where
  time : Value
  bytes : Number
deriving Inhabited

structure Window where
  span : Float
  /-- The transfers kept, the oldest first. -/
  transfers : List Transfer := []
  total : Number := .int 0
deriving Inhabited

namespace Window

/-- Transfers at or before the horizon leave, and their bytes leave the total. A total that cannot
be told any more leaves the transfer out and stays as it was; a transfer without a time stays, and
keeps the ones behind it. -/
def evictUpTo (horizon : Number) (span : Float) :
    List Transfer → Number → Except NumberError Unit × Window
  | [], total => (.ok (), ⟨span, [], total⟩)
  | t :: rest, total =>
    match t.time.number with
    | .error e => (.error e, ⟨span, t :: rest, total⟩)
    | .ok time =>
      if time ≤ horizon then
        match total.sub t.bytes with
        | .ok total => evictUpTo horizon span rest total
        | .error e => (.error e, ⟨span, rest, total⟩)
      else (.ok (), ⟨span, t :: rest, total⟩)

/-- Evicts what is a span or more before `now`. -/
def evict (now : Value) (w : Window) : Except NumberError Unit × Window :=
  match now.number.bind (·.sub (.float w.span)) with
  | .ok horizon => evictUpTo horizon w.span w.transfers w.total
  | .error e => (.error e, w)

/-- Keeps a transfer, then evicts. The transfer is kept even when its bytes cannot be added, or when
the clock shows no time. -/
def add (now : Value) (bytes : Number) (w : Window) : Except NumberError Unit × Window :=
  let w := { w with transfers := w.transfers ++ [(⟨now, bytes⟩ : Transfer)] }
  match w.total.add bytes with
  | .ok total => evict now { w with total := total }
  | .error e => (.error e, w)

/-- The kept bytes over the span, in whole bytes per second. -/
def quotient (w : Window) : Except NumberError Int := do
  let total ← w.total.toFloat
  (Number.float (total / w.span)).truncate

/-- Evicts, then tells the rate. -/
def rate (now : Value) (w : Window) : Except NumberError Int × Window :=
  match evict now w with
  | (.ok (), w) => (w.quotient, w)
  | (.error e, w) => (.error e, w)

end Window

/-- The two directions of transfer. -/
inductive Direction where
  | outgoing
  | incoming
deriving DecidableEq, Inhabited

/-- The part that a source of throughput is asked by. -/
def Direction.partName : Direction → String
  | outgoing => "outgoing_throughput"
  | incoming => "incoming_throughput"

/-- The part by which transfers are noted. -/
def Direction.recorderName : Direction → String
  | outgoing => "record_outgoing"
  | incoming => "record_incoming"

/-- The part that a tracker keeps its window as. -/
def Direction.windowName : Direction → String
  | outgoing => "_outgoing"
  | incoming => "_incoming"

structure Throughput where
  outgoing : Window
  incoming : Window
deriving Inhabited

namespace Throughput

/-- Two empty windows of this span, which is above zero. -/
def ofSpan (span : Value) : Except ThroughputError Throughput :=
  match span.number with
  | .error e => .error (.number e)
  | .ok n =>
    if n ≤ .int 0 then .error .windowNotPositive
    else match n.toFloat with
      | .error e => .error (.number e)
      | .ok x => .ok ⟨⟨x, [], .int 0⟩, ⟨x, [], .int 0⟩⟩

def window (t : Throughput) : Direction → Window
  | .outgoing => t.outgoing
  | .incoming => t.incoming

def setWindow (t : Throughput) (d : Direction) (w : Window) : Throughput :=
  match d with
  | .outgoing => { t with outgoing := w }
  | .incoming => { t with incoming := w }

/-- The bytes of a transfer, which are at least zero. -/
def accept (bytes : Value) : Except ThroughputError Number :=
  match bytes.number with
  | .error e => .error (.number e)
  | .ok n => if n < .int 0 then .error .negativeBytes else .ok n

/-- Notes a transfer of at least zero bytes. -/
def record (now : Value) (d : Direction) (bytes : Value) (t : Throughput) :
    Except ThroughputError Unit × Throughput :=
  match accept bytes with
  | .error e => (.error e, t)
  | .ok n =>
    let (outcome, w) := (t.window d).add now n
    (outcome.mapError .number, t.setWindow d w)

/-- The rate of one direction; the other is not touched. -/
def rate (now : Value) (d : Direction) (t : Throughput) : Except NumberError Int × Throughput :=
  let (outcome, w) := (t.window d).rate now
  (outcome, t.setWindow d w)

end Throughput

end StorageMetrics
