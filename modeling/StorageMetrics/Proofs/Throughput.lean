import Mathlib.Data.List.Induction
import Mathlib.Data.List.TakeWhile
import StorageMetrics.Throughput

/-
  Throughput against its whole history. Whatever a tracker is asked, in whatever order, each window
  holds a suffix of the transfers recorded in its direction, with their exact total
  (`window_after`). A transfer that left was a span or more before a time that was read
  (`recorded_eq`); once the clock never runs backwards it is so before every later time, and the
  transfers kept are sorted, so that stopping at the first young one misses none
  (`settle_eq_filter`). The rate is then that over all transfers ever recorded.
-/

namespace StorageMetrics

/-- A transfer of a whole number of bytes, and what the clock showed. -/
structure Chunk where
  time : Value
  bytes : Int

namespace Chunk

def transfer (c : Chunk) : Transfer := ⟨c.time, .int c.bytes⟩

def sum : List Chunk → Int
  | [] => 0
  | c :: rest => c.bytes + sum rest

theorem sum_cons_sub (c : Chunk) (rest : List Chunk) : sum (c :: rest) - c.bytes = sum rest := by
  rw [sum]
  omega

theorem sum_append (cs ds : List Chunk) : sum (cs ++ ds) = sum cs + sum ds := by
  induction cs with
  | nil => rw [List.nil_append, sum, Int.zero_add]
  | cons c rest ih => rw [List.cons_append, sum, ih, sum, Int.add_assoc]

end Chunk

/-! ## Windows -/

namespace Window

/-- The window that keeps just these transfers. -/
def holding (span : Float) (cs : List Chunk) : Window :=
  ⟨span, cs.map Chunk.transfer, .int (Chunk.sum cs)⟩

/-- The latest time that is a span or more before `now`. -/
def horizon (span : Float) (now : Value) : Except NumberError Number :=
  now.number.bind (·.sub (.float span))

/-- A time at or before a horizon; what is no number is not. -/
def isBy (limit : Number) (time : Value) : Bool :=
  match time.number with
  | .ok t => t ≤ limit
  | .error _ => false

/-- What stays at `now`: the oldest leave, up to the first that is young. -/
def settle (span : Float) (now : Value) (cs : List Chunk) : List Chunk :=
  match horizon span now with
  | .ok limit => cs.dropWhile fun c => isBy limit c.time
  | .error _ => cs

/-- The rate at `now` over the whole of some transfers: the bytes of those that are young, over the
span. -/
def rateOver (span : Float) (now : Value) (cs : List Chunk) : Except NumberError Int := do
  let limit ← horizon span now
  let bytes ← (Number.int (Chunk.sum (cs.filter fun c => !isBy limit c.time))).toFloat
  (Number.float (bytes / span)).truncate

variable {span : Float} {now : Value} {limit : Number} {cs : List Chunk}

theorem evictUpTo_state (limit : Number) (span : Float) (cs : List Chunk) :
    (evictUpTo limit span (cs.map Chunk.transfer) (.int (Chunk.sum cs))).2 =
      holding span (cs.dropWhile fun c => isBy limit c.time) := by
  induction cs with
  | nil => rfl
  | cons c rest ih =>
    simp only [List.map_cons, evictUpTo, List.dropWhile_cons]
    cases time : c.time.number with
    | error e => simp [Chunk.transfer, time, isBy, holding]
    | ok t =>
      by_cases old : t ≤ limit
      · simpa [Chunk.transfer, time, isBy, old, Number.sub_int, Chunk.sum_cons_sub] using ih
      · simp [Chunk.transfer, time, isBy, old, holding]

/-- Where all times are numbers, eviction comes to its end. -/
theorem evictUpTo_outcome (limit : Number) (span : Float)
    (numbers : ∀ c ∈ cs, ∃ t, c.time.number = .ok t) :
    (evictUpTo limit span (cs.map Chunk.transfer) (.int (Chunk.sum cs))).1 = .ok () := by
  induction cs with
  | nil => rfl
  | cons c rest ih =>
    obtain ⟨t, time⟩ := numbers c List.mem_cons_self
    have later := ih fun c mem => numbers c (List.mem_cons_of_mem _ mem)
    simp only [List.map_cons, evictUpTo]
    by_cases old : t ≤ limit
    · simpa [Chunk.transfer, time, old, Number.sub_int, Chunk.sum_cons_sub] using later
    · simp [Chunk.transfer, time, old]

theorem evict_eq (now : Value) (w : Window) :
    evict now w = match horizon w.span now with
      | .ok limit => evictUpTo limit w.span w.transfers w.total
      | .error e => (.error e, w) := rfl

theorem evict_state : (evict now (holding span cs)).2 = holding span (settle span now cs) := by
  rw [evict_eq, settle]
  change (match horizon span now with | .ok _ => _ | .error e => (Except.error e, _)).2 = _
  cases horizon span now with
  | error e => rfl
  | ok limit => exact evictUpTo_state limit span cs

theorem evict_outcome (limited : horizon span now = .ok limit)
    (numbers : ∀ c ∈ cs, ∃ t, c.time.number = .ok t) :
    (evict now (holding span cs)).1 = .ok () := by
  rw [evict_eq]
  simp only [holding, limited]
  exact evictUpTo_outcome limit span numbers

theorem evict_refused {e : NumberError} (refused : horizon span now = .error e) :
    evict now (holding span cs) = (.error e, holding span cs) := by
  rw [evict_eq]
  simp only [holding, refused]

theorem add_state (n : Int) :
    (add now (.int n) (holding span cs)).2 = holding span (settle span now (cs ++ [⟨now, n⟩])) := by
  have noted : Window.mk span (cs.map Chunk.transfer ++ [⟨now, .int n⟩])
      (.int (Chunk.sum cs + n)) = holding span (cs ++ [⟨now, n⟩]) := by
    simp [holding, Chunk.sum_append, Chunk.sum, Chunk.transfer]
  unfold add
  simp only [holding, Number.add_int]
  rw [noted, evict_state]
  rfl

theorem rate_state : (rate now (holding span cs)).2 = holding span (settle span now cs) := by
  have state : (evict now (holding span cs)).2 = holding span (settle span now cs) := evict_state
  unfold rate
  split
  case h_1 w evicted => rw [evicted] at state; exact state
  case h_2 e w evicted => rw [evicted] at state; exact state

/-! ### What stays -/

/-- What leaves was at or before the horizon. -/
theorem settle_split (span : Float) (now : Value) (cs : List Chunk) :
    ∃ gone, cs = gone ++ settle span now cs ∧
      ∀ c ∈ gone, ∃ limit, horizon span now = .ok limit ∧ isBy limit c.time = true := by
  unfold settle
  cases limited : horizon span now with
  | error e => exact ⟨[], rfl, by simp⟩
  | ok limit =>
    refine ⟨cs.takeWhile fun c => isBy limit c.time, List.takeWhile_append_dropWhile.symm, ?_⟩
    intro c mem
    exact ⟨limit, rfl, List.mem_takeWhile_imp (p := fun c : Chunk => isBy limit c.time) mem⟩

/-- Both are numbers, and the first is not above the second. -/
def notAfter (a b : Value) : Bool :=
  match a.number, b.number with
  | .ok m, .ok n => m ≤ n
  | _, _ => false

theorem notAfter_iff {a b : Value} :
    notAfter a b = true ↔ ∃ m n, a.number = .ok m ∧ b.number = .ok n ∧ m ≤ n := by
  unfold notAfter
  cases a.number <;> cases b.number <;> simp

theorem isBy_iff {time : Value} :
    isBy limit time = true ↔ ∃ t, time.number = .ok t ∧ t ≤ limit := by
  unfold isBy
  cases time.number <;> simp

theorem isBy_of_notAfter {a b : Value} (before : notAfter a b = true) (by_ : isBy limit b = true) :
    isBy limit a = true := by
  obtain ⟨m, n, ofA, ofB, le⟩ := notAfter_iff.mp before
  obtain ⟨n', ofB', le'⟩ := isBy_iff.mp by_
  cases ofB.symm.trans ofB'
  exact isBy_iff.mpr ⟨m, ofA, Number.le_trans le le'⟩

/-- In order of time, no young transfer stands before an old one. -/
theorem settle_eq_filter (limited : horizon span now = .ok limit)
    (sorted : cs.Pairwise fun c d => notAfter c.time d.time = true) :
    settle span now cs = cs.filter fun c => !isBy limit c.time := by
  unfold settle
  rw [limited]
  dsimp only
  induction cs with
  | nil => rfl
  | cons c rest ih =>
    obtain ⟨first, later⟩ := List.pairwise_cons.mp sorted
    cases old : isBy limit c.time with
    | true => simpa [List.dropWhile_cons, old] using ih later
    | false =>
      have young : ∀ d ∈ rest, isBy limit d.time = false := by
        intro d mem
        by_contra by_
        have sooner := isBy_of_notAfter (first d mem) (by simpa using by_)
        rw [old] at sooner
        cases sooner
      have all : ∀ d ∈ c :: rest, (!isBy limit d.time) = true := by simpa [old] using young
      rw [List.filter_eq_self.mpr all, List.dropWhile_cons_of_neg (by simp [old])]

end Window

/-! ## Calls -/

/-- What a tracker is asked: to note a transfer, or to tell a rate. -/
inductive TrackerCall where
  | record (d : Direction) (bytes : Int)
  | rate (d : Direction)

/-- A call, and what the clock shows when it is made. -/
structure TimedCall where
  now : Value
  call : TrackerCall

namespace TimedCall

/-- The calls that read the clock for a direction: all of that direction but the refused ones. -/
def reads (d : Direction) (c : TimedCall) : Bool :=
  match c.call with
  | .record e n => e = d && 0 ≤ n
  | .rate e => e = d

/-- The transfer that a call records in a direction. -/
def chunk? (d : Direction) (c : TimedCall) : Option Chunk :=
  match c.call with
  | .record e n => if e = d ∧ 0 ≤ n then some ⟨c.now, n⟩ else none
  | .rate _ => none

/-- What a window of a direction keeps after a call. -/
def settle (span : Float) (d : Direction) (kept : List Chunk) (c : TimedCall) : List Chunk :=
  if c.reads d then Window.settle span c.now (kept ++ (c.chunk? d).toList) else kept

theorem chunk?_of_not_reads {d : Direction} {c : TimedCall} (silent : c.reads d = false) :
    c.chunk? d = none := by
  obtain ⟨now, call⟩ := c
  cases call with
  | record e n => simpa [reads, chunk?] using silent
  | rate e => rfl

theorem time_of_chunk? {d : Direction} {c : TimedCall} {chunk : Chunk}
    (some_ : c.chunk? d = some chunk) : chunk.time = c.now := by
  obtain ⟨now, call⟩ := c
  cases call with
  | record e n =>
    simp only [chunk?, Option.ite_none_right_eq_some, Option.some.injEq] at some_
    rw [← some_.2]
  | rate e => cases some_

end TimedCall

/-- The transfers recorded in a direction, the oldest first. -/
def recorded (d : Direction) (calls : List TimedCall) : List Chunk := calls.filterMap (·.chunk? d)

/-- What the clock showed to a direction. -/
def readings (d : Direction) (calls : List TimedCall) : List Value :=
  (calls.filter (·.reads d)).map (·.now)

namespace Throughput

/-- The tracker after a call. -/
def answer (t : Throughput) (c : TimedCall) : Throughput :=
  match c.call with
  | .record d n => (t.record c.now d (.int n)).2
  | .rate d => (t.rate c.now d).2

def after (t : Throughput) (calls : List TimedCall) : Throughput := calls.foldl answer t

@[simp]
theorem window_setWindow (t : Throughput) (d : Direction) (w : Window) :
    (t.setWindow d w).window d = w := by
  cases d <;> rfl

theorem window_setWindow_of_ne {d e : Direction} (differ : e ≠ d) (t : Throughput) (w : Window) :
    (t.setWindow e w).window d = t.window d := by
  cases d <;> cases e <;> first | rfl | exact absurd rfl differ

theorem int_lt_zero {n : Int} : Number.int n < .int 0 ↔ n < 0 := by
  change Magnitude.lt _ _ = true ↔ _
  simp only [Magnitude.lt, Magnitude.le, Number.magnitude, Int.zero_mul, Bool.and_eq_true,
    decide_eq_true_eq, Bool.not_eq_true', decide_eq_false_iff_not, Int.not_le]
  have one : 0 < Magnitude.one := by decide +kernel
  constructor
  · rintro ⟨-, below⟩
    by_contra natural
    have product := Int.mul_nonneg (Int.not_lt.mp natural) (Int.le_of_lt one)
    omega
  · intro below
    have product := Int.mul_neg_of_neg_of_pos below one
    exact ⟨Int.le_of_lt product, product⟩

theorem record_negative (t : Throughput) (now : Value) (d : Direction) {n : Int}
    (negative : n < 0) : t.record now d (.int n) = (.error .negativeBytes, t) := by
  simp [record, accept, Value.number, Value.number?, int_lt_zero, negative]

theorem record_state (t : Throughput) (now : Value) (d : Direction) {n : Int} (natural : 0 ≤ n) :
    (t.record now d (.int n)).2 = t.setWindow d ((t.window d).add now (.int n)).2 := by
  simp [record, accept, Value.number, Value.number?, int_lt_zero, Int.not_lt.mpr natural]

/-- A call does to the window of a direction what it does to the transfers kept there. -/
theorem window_answer {t : Throughput} {d : Direction} {span : Float} {kept : List Chunk}
    (holds : t.window d = Window.holding span kept) (c : TimedCall) :
    (t.answer c).window d = Window.holding span (c.settle span d kept) := by
  obtain ⟨now, call⟩ := c
  cases call with
  | record e n =>
    by_cases negative : n < 0
    · simpa [answer, TimedCall.settle, TimedCall.reads, record_negative t now e negative,
        Int.not_le.mpr negative] using holds
    · have natural : 0 ≤ n := Int.not_lt.mp negative
      simp only [answer]
      rw [record_state t now e natural]
      by_cases same : e = d
      · subst same
        rw [window_setWindow, holds, Window.add_state]
        simp [TimedCall.settle, TimedCall.reads, TimedCall.chunk?, natural]
      · rw [window_setWindow_of_ne same, holds]
        simp [TimedCall.settle, TimedCall.reads, same]
  | rate e =>
    simp only [answer, rate]
    by_cases same : e = d
    · subst same
      rw [window_setWindow, holds, Window.rate_state]
      simp [TimedCall.settle, TimedCall.reads, TimedCall.chunk?]
    · rw [window_setWindow_of_ne same, holds]
      simp [TimedCall.settle, TimedCall.reads, same]

end Throughput

/-! ## Histories -/

/-- The transfers that the window of a direction keeps after some calls. -/
def keptBy (span : Float) (d : Direction) (calls : List TimedCall) : List Chunk :=
  calls.foldl (TimedCall.settle span d) []

/-- The calls that do not concern a direction leave it alone. -/
theorem keptBy_filter (span : Float) (d : Direction) (calls : List TimedCall) :
    keptBy span d (calls.filter (·.reads d)) = keptBy span d calls := by
  unfold keptBy
  rw [List.foldl_filter]
  congr 1
  funext kept c
  cases read : c.reads d <;> simp [TimedCall.settle, read]

namespace Throughput

theorem ofSpan_ok {span : Value} {t : Throughput} (accepted : ofSpan span = .ok t) :
    ∃ x, span.number.bind (·.toFloat) = .ok x ∧ ∀ d, t.window d = Window.holding x [] := by
  unfold ofSpan at accepted
  cases number : span.number with
  | error e => rw [number] at accepted; cases accepted
  | ok n =>
    rw [number] at accepted
    dsimp only at accepted
    split at accepted
    · cases accepted
    · cases float : n.toFloat with
      | error e => rw [float] at accepted; cases accepted
      | ok x =>
        rw [float] at accepted
        cases accepted
        exact ⟨x, float, fun d => by cases d <;> rfl⟩

theorem window_after {t : Throughput} {d : Direction} {span : Float}
    (empty : t.window d = Window.holding span []) (calls : List TimedCall) :
    (t.after calls).window d = Window.holding span (keptBy span d calls) := by
  induction calls using List.reverseRecOn with
  | nil => exact empty
  | append_singleton calls c ih =>
    unfold after keptBy at *
    rw [List.foldl_append, List.foldl_append]
    exact window_answer ih c

end Throughput

/-- What a direction recorded is what left and what stayed, in order, and what left had come to lie
a span or more before a time that was read. -/
theorem recorded_eq (span : Float) (d : Direction) (calls : List TimedCall) :
    ∃ gone, recorded d calls = gone ++ keptBy span d calls ∧
      ∀ c ∈ gone, ∃ now ∈ readings d calls, ∃ limit, Window.horizon span now = .ok limit ∧
        Window.isBy limit c.time = true := by
  induction calls using List.reverseRecOn with
  | nil => exact ⟨[], rfl, by simp⟩
  | append_singleton calls call ih =>
    obtain ⟨gone, whole, left⟩ := ih
    have now_recorded :
        recorded d (calls ++ [call]) = recorded d calls ++ (call.chunk? d).toList := by
      cases chunk : call.chunk? d <;> simp [recorded, chunk]
    have now_kept : keptBy span d (calls ++ [call]) = call.settle span d (keptBy span d calls) := by
      simp [keptBy]
    have earlier : ∀ now ∈ readings d calls, now ∈ readings d (calls ++ [call]) := by
      intro now mem
      simp only [readings, List.filter_append, List.map_append]
      exact List.mem_append_left _ mem
    rw [now_recorded, now_kept, whole, TimedCall.settle]
    cases read : call.reads d with
    | false =>
      rw [TimedCall.chunk?_of_not_reads read]
      refine ⟨gone, by simp, fun c mem => ?_⟩
      obtain ⟨now, mem, limit⟩ := left c mem
      exact ⟨now, earlier now mem, limit⟩
    | true =>
      obtain ⟨leaving, split, by_⟩ := Window.settle_split span call.now
        (keptBy span d calls ++ (call.chunk? d).toList)
      refine ⟨gone ++ leaving, ?_, fun c mem => ?_⟩
      · rw [List.append_assoc, List.append_assoc, if_pos rfl, ← split]
      · rcases List.mem_append.mp mem with old | new
        · obtain ⟨now, mem, limit⟩ := left c old
          exact ⟨now, earlier now mem, limit⟩
        · refine ⟨call.now, ?_, by_ c new⟩
          simp [readings, read]

/-- The times of the transfers recorded are among those that were read, in order. -/
theorem times_sublist (d : Direction) (calls : List TimedCall) :
    ((recorded d calls).map Chunk.time).Sublist (readings d calls) := by
  induction calls with
  | nil => exact List.Sublist.slnil
  | cons c rest ih =>
    unfold recorded readings at *
    cases read : c.reads d with
    | false => simpa [List.filterMap_cons, TimedCall.chunk?_of_not_reads read, read] using ih
    | true =>
      cases chunk : c.chunk? d with
      | none => simpa [List.filterMap_cons, chunk, read] using ih.cons c.now
      | some chunk' =>
        simpa [List.filterMap_cons, chunk, read, TimedCall.time_of_chunk? chunk] using
          ih.cons_cons c.now

/-! ## Rates -/

/-- A clock that never runs backwards. -/
def NeverDecreases (times : List Value) : Prop :=
  times.Pairwise fun a b => Window.notAfter a b = true

/-- The horizon of the later time is not before that of the earlier one, where both can be told. -/
def Window.keepsOrder (span : Float) (a b : Value) : Bool :=
  match horizon span a, horizon span b with
  | .ok x, .ok y => x ≤ x → x ≤ y
  | _, _ => true

/-- Taking the span off some times keeps their order, as rounding to the nearest float does. A
horizon that is no number has no place in the order. -/
def SubtractsInOrder (span : Float) (times : List Value) : Prop :=
  ∀ a ∈ times, ∀ b ∈ times, Window.notAfter a b = true → Window.keepsOrder span a b = true

instance (times : List Value) : Decidable (NeverDecreases times) :=
  inferInstanceAs (Decidable (times.Pairwise _))

instance (span : Float) (times : List Value) : Decidable (SubtractsInOrder span times) :=
  inferInstanceAs (Decidable (∀ a ∈ times, ∀ b ∈ times, _ → _))

/-- With a clock that never runs backwards the old transfers are gone, and only those. -/
theorem settle_keptBy {span : Float} {d : Direction} {calls : List TimedCall} {now : Value}
    {limit : Number} (limited : Window.horizon span now = .ok limit)
    (forward : NeverDecreases (readings d calls ++ [now]))
    (ordered : SubtractsInOrder span (readings d calls ++ [now])) :
    Window.settle span now (keptBy span d calls) =
      (recorded d calls).filter fun c => !Window.isBy limit c.time := by
  obtain ⟨gone, whole, left⟩ := recorded_eq span d calls
  obtain ⟨early, -, beforeNow⟩ := List.pairwise_append.mp forward
  -- what left at an earlier time lies before the present horizon too
  have allOld : ∀ c ∈ gone, Window.isBy limit c.time = true := by
    intro c mem
    obtain ⟨past, read, horizon, limited', by_⟩ := left c mem
    obtain ⟨t, time, le⟩ := Window.isBy_iff.mp by_
    have order := ordered past (List.mem_append_left _ read) now (by simp)
      (beforeNow past read now (by simp))
    have known : horizon ≤ horizon := Magnitude.le_refl fun nan => by
      have nowhere : t.magnitude.le horizon.magnitude = true := le
      rw [nan] at nowhere
      cases place : t.magnitude <;> rw [place] at nowhere <;> cases nowhere
    simp only [Window.keepsOrder, limited', limited, decide_eq_true_eq] at order
    exact Window.isBy_iff.mpr ⟨t, time, Number.le_trans le (order known)⟩
  have sorted : (keptBy span d calls).Pairwise fun c e => Window.notAfter c.time e.time = true := by
    have times := early.sublist (times_sublist d calls)
    rw [List.pairwise_map, whole] at times
    exact (List.pairwise_append.mp times).2.1
  have noneYoung : gone.filter (fun c => !Window.isBy limit c.time) = [] := by
    simpa [List.filter_eq_nil_iff] using allOld
  rw [Window.settle_eq_filter limited sorted, whole, List.filter_append, noneYoung, List.nil_append]

/-- The rate that is told is the one over all transfers ever recorded. -/
theorem rate_keptBy {span : Float} {d : Direction} {calls : List TimedCall} {now : Value}
    (forward : NeverDecreases (readings d calls ++ [now]))
    (ordered : SubtractsInOrder span (readings d calls ++ [now])) :
    (Window.rate now (Window.holding span (keptBy span d calls))).1 =
      Window.rateOver span now (recorded d calls) := by
  unfold Window.rate Window.rateOver
  cases limited : Window.horizon span now with
  | error e =>
    rw [Window.evict_refused limited]
    rfl
  | ok limit =>
    obtain ⟨gone, whole, -⟩ := recorded_eq span d calls
    obtain ⟨-, -, beforeNow⟩ := List.pairwise_append.mp forward
    have numbers : ∀ c ∈ keptBy span d calls, ∃ t, c.time.number = .ok t := by
      intro c mem
      have among : c.time ∈ (recorded d calls).map Chunk.time := by
        rw [whole]
        exact List.mem_map_of_mem (List.mem_append_right _ mem)
      have before := beforeNow c.time ((times_sublist d calls).mem among) now (by simp)
      obtain ⟨t, -, time, -⟩ := Window.notAfter_iff.mp before
      exact ⟨t, time⟩
    have state : (Window.evict now (Window.holding span (keptBy span d calls))).2 =
        Window.holding span (Window.settle span now (keptBy span d calls)) := Window.evict_state
    have outcome := Window.evict_outcome limited numbers
    rw [settle_keptBy limited forward ordered] at state
    have evicted : Window.evict now (Window.holding span (keptBy span d calls)) =
        (.ok (), Window.holding span
          ((recorded d calls).filter fun c => !Window.isBy limit c.time)) := Prod.ext outcome state
    rw [evicted]
    rfl

/-- Whatever a tracker is asked, each window holds a suffix of its direction's transfers with their
exact total, untouched by the other direction's calls; a negative transfer is refused and changes
nothing. While the clock never runs backwards the rate is the one over all transfers ever recorded,
so that it depends on these and on the time alone. -/
theorem rates_follow_records {span : Value} {t : Throughput}
    (accepted : Throughput.ofSpan span = .ok t) :
    ∃ x, span.number.bind (·.toFloat) = .ok x ∧
      ∀ (calls : List TimedCall) (d : Direction),
        (∃ kept, kept <:+ recorded d calls ∧
          (t.after calls).window d = Window.holding x kept) ∧
        (t.after (calls.filter (·.reads d))).window d = (t.after calls).window d ∧
        (∀ now n, n < 0 →
          (t.after calls).record now d (.int n) = (.error .negativeBytes, t.after calls)) ∧
        (∀ now, NeverDecreases (readings d calls ++ [now]) →
          SubtractsInOrder x (readings d calls ++ [now]) →
          ((t.after calls).rate now d).1 = Window.rateOver x now (recorded d calls) ∧
          ∀ others, recorded d others = recorded d calls →
            NeverDecreases (readings d others ++ [now]) →
            SubtractsInOrder x (readings d others ++ [now]) →
            ((t.after others).rate now d).1 = ((t.after calls).rate now d).1) := by
  obtain ⟨x, float, empty⟩ := Throughput.ofSpan_ok accepted
  have window : ∀ calls d, (t.after calls).window d = Window.holding x (keptBy x d calls) :=
    fun calls d => Throughput.window_after (empty d) calls
  have rate : ∀ calls d now, NeverDecreases (readings d calls ++ [now]) →
      SubtractsInOrder x (readings d calls ++ [now]) →
      ((t.after calls).rate now d).1 = Window.rateOver x now (recorded d calls) := by
    intro calls d now forward ordered
    rw [← rate_keptBy forward ordered, ← window]
    rfl
  refine ⟨x, float, fun calls d => ⟨?_, ?_, ?_, ?_⟩⟩
  · obtain ⟨gone, whole, -⟩ := recorded_eq x d calls
    exact ⟨keptBy x d calls, ⟨gone, whole.symm⟩, window calls d⟩
  · rw [window, window, keptBy_filter]
  · exact fun now n negative => Throughput.record_negative _ now d negative
  · intro now forward ordered
    refine ⟨rate calls d now forward ordered, fun others same forward' ordered' => ?_⟩
    rw [rate others d now forward' ordered', rate calls d now forward ordered, same]

/-- Over a span of ten seconds, a transfer made exactly ten seconds ago counts no more. -/
theorem rates_follow_records_at_edge :
    ∃ t, Throughput.ofSpan (.int 10) = .ok t ∧
      ((t.after [⟨.float 0, .record .outgoing 100⟩, ⟨.float 0, .record .incoming 7⟩,
        ⟨.float 5, .record .outgoing 50⟩]).rate (.float 10) .outgoing).1 = .ok 5 := by
  have above : ¬ Number.int 10 ≤ .int 0 := by decide +kernel
  have finite : (Float.ofInt 10).isFinite = true := by decide +kernel
  have float : (Number.int 10).toFloat = .ok (Float.ofInt 10) := by
    simp only [Number.toFloat, finite, if_true]
  have accepted : Throughput.ofSpan (.int 10) =
      .ok ⟨Window.holding (Float.ofInt 10) [], Window.holding (Float.ofInt 10) []⟩ := by
    simp only [Throughput.ofSpan, Value.number, Value.number?, if_neg above, float]
    rfl
  obtain ⟨x, float', follows⟩ := rates_follow_records accepted
  cases float.symm.trans float'
  obtain ⟨-, -, -, rate⟩ := follows [⟨.float 0, .record .outgoing 100⟩,
    ⟨.float 0, .record .incoming 7⟩, ⟨.float 5, .record .outgoing 50⟩] .outgoing
  refine ⟨_, accepted, (rate (.float 10) ?_ ?_).1.trans ?_⟩
  · decide +kernel
  · decide +kernel
  · decide +kernel

end StorageMetrics
