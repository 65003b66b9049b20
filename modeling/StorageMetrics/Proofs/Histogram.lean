import StorageMetrics.Histogram
import StorageMetrics.Proofs.Number

/-
  What histograms tell. Each value is counted once, in the first bucket whose bound it does not
  exceed. Over ascending bounds that is one more beside every bound from there on, so beside each
  bound stands how many of the values are at most this bound (`cumulate_countAll`), and beside the
  last one, infinity, how many there are (`tells_after`). The sum goes on by itself: it is the running
  sum of the values, and what it refuses is not counted either (`update_after`).
-/

namespace StorageMetrics

/-! ## Running sums -/

/-- The sum of numbers, in order. Each is taken as a float before it is added. -/
def Number.sum (ns : List Number) : Except NumberError Float :=
  ns.foldlM (fun total n => do return total + (← n.toFloat)) 0

theorem Number.sum_append_singleton (ns : List Number) (n : Number) :
    sum (ns ++ [n]) = (do return (← sum ns) + (← n.toFloat)) := by
  rw [sum, List.foldlM_append, ← sum]
  refine bind_congr fun total => ?_
  rw [List.foldlM_cons, bind_assoc]
  exact bind_congr fun x => rfl

/-- What is added to a float is taken as one. -/
theorem Value.grow_float {v : Value} {n : Number} (number : v.number? = some n) (total : Float) :
    (Value.float total).grow v = n.toFloat.map fun x => .float (total + x) := by
  have read : v.number = .ok n := by rw [Value.number, number]
  have added : (Value.float total).grow v =
      (do return (← (Number.float total).add (← v.number)).toValue) := by
    cases v <;> rfl
  rw [added, read]
  cases n with
  | float x => rfl
  | int k =>
    show (do return (← (do return Number.float (total + (← (Number.int k).toFloat)))).toValue) = _
    cases (Number.int k).toFloat <;> rfl

namespace Histogram

/-! ## Layouts -/

/-- The bounds that a histogram is asked to have. -/
def layout (biased bounds : Value) : Except NumberError (List Float) :=
  match bounds with
  | .none => .ok (if biased.isPresent then microsecondBounds else secondBounds)
  | v => v.members.bind fun xs => xs.mapM Value.toFloat

/-- A histogram that has taken nothing in. -/
def empty (biased : Value) (bounds : List Float) : Histogram :=
  ⟨biased, bounds, bounds.map fun _ => 0, .float 0⟩

/-- Infinity is appended unless it is there. -/
theorem close_cons (first : Float) (rest : List Float) :
    close (first :: rest) = first :: rest ∧ (first :: rest).getLast? = some (1 / 0) ∨
      close (first :: rest) = first :: rest ++ [1 / 0] := by
  have last : (first :: rest).getLast? = some ((first :: rest).getLast (List.cons_ne_nil _ _)) :=
    List.getLast?_eq_some_getLast _
  unfold close
  rw [last]
  dsimp only
  split
  case isTrue infinite => exact Or.inl ⟨rfl, congrArg some infinite⟩
  case isFalse => exact Or.inr rfl

/-- A histogram is made over ascending bounds that are two or more when they are closed. -/
theorem ofBounds_eq_ok_iff {biased : Value} {bounds : List Float} {fresh : Histogram} :
    ofBounds biased bounds = .ok fresh ↔ ascending bounds = true ∧ 2 ≤ (close bounds).length ∧
      fresh = empty biased (close bounds) := by
  unfold ofBounds
  cases ascends : ascending bounds with
  | false => simp
  | true =>
    by_cases few : (close bounds).length < 2
    · simp [few, Nat.not_le.mpr few]
    · simp [few, Nat.not_lt.mp few, empty, eq_comm]

/-- Each of the two layouts can be asked for. -/
theorem ofBounds_standard (biased : Value) :
    ofBounds biased (if biased.isPresent then microsecondBounds else secondBounds) =
      .ok (standard biased) := by
  have closed : close (if biased.isPresent then microsecondBounds else secondBounds) =
      if biased.isPresent then microsecondBounds else secondBounds := by
    cases biased.isPresent <;> decide +kernel
  refine ofBounds_eq_ok_iff.mpr ⟨?_, ?_, ?_⟩
  · cases biased.isPresent <;> decide +kernel
  · rw [closed]
    cases biased.isPresent <;> decide
  · rw [closed]
    rfl

/-- What is made depends on the bounds that are asked for. -/
theorem ofValues_eq (biased bounds : Value) :
    ofValues biased bounds = ((layout biased bounds).mapError .number).bind (ofBounds biased) := by
  unfold ofValues
  split
  case h_1 => exact (ofBounds_standard biased).symm
  case h_2 given =>
    have asked : layout biased bounds = bounds.members.bind fun xs => xs.mapM Value.toFloat := by
      cases bounds <;> first | exact absurd rfl given | rfl
    rw [asked]
    cases bounds.members.bind fun xs => xs.mapM Value.toFloat <;> rfl

theorem ofValues_eq_ok_iff {biased bounds : Value} {fresh : Histogram} :
    ofValues biased bounds = .ok fresh ↔ ∃ xs, layout biased bounds = .ok xs ∧
      ascending xs = true ∧ 2 ≤ (close xs).length ∧ fresh = empty biased (close xs) := by
  rw [ofValues_eq]
  cases layout biased bounds with
  | error e =>
    constructor
    · intro made
      cases made
    · rintro ⟨xs, laid, -⟩
      cases laid
  | ok xs =>
    refine ofBounds_eq_ok_iff.trans ⟨fun accepted => ⟨xs, rfl, accepted⟩, ?_⟩
    rintro ⟨_, laid, accepted⟩
    cases laid
    exact accepted

/-- Without NaN, what ascends is in order. -/
theorem ordered_of_ascending {bounds : List Float} (ascends : ascending bounds = true)
    (numbers : ∀ b ∈ bounds, ¬ (Number.float b).IsNaN) :
    bounds.Pairwise fun a b => Number.float a ≤ .float b := by
  induction bounds with
  | nil => exact .nil
  | cons a rest ih =>
    cases rest with
    | nil => exact List.pairwise_singleton _ _
    | cons b rest =>
      rw [ascending, Bool.and_eq_true, Bool.not_eq_true', decide_eq_false_iff_not] at ascends
      obtain ⟨first, ascends⟩ := ascends
      have inOrder := ih ascends fun c mem => numbers c (List.mem_cons_of_mem _ mem)
      have next : Number.float a ≤ .float b :=
        Number.le_of_not_lt (numbers a List.mem_cons_self)
          (numbers b (List.mem_cons_of_mem _ List.mem_cons_self)) first
      refine List.pairwise_cons.mpr ⟨fun c mem => ?_, inOrder⟩
      obtain rfl | mem := List.mem_cons.mp mem
      · exact next
      · exact Number.le_trans next ((List.pairwise_cons.mp inOrder).1 c mem)

/-- Closed bounds are in order as well, and infinity is the last. -/
theorem ordered_close {bounds : List Float} (ascends : ascending bounds = true)
    (many : 2 ≤ (close bounds).length) (numbers : ∀ b ∈ close bounds, ¬ (Number.float b).IsNaN) :
    (close bounds).Pairwise (fun a b => Number.float a ≤ .float b) ∧
      (close bounds).getLast? = some (1 / 0) := by
  have present : bounds ≠ [] := by
    rintro rfl
    exact absurd many (by decide)
  obtain ⟨first, rest, rfl⟩ := List.exists_cons_of_ne_nil present
  obtain ⟨same, last⟩ | same := close_cons first rest
  · rw [same] at numbers ⊢
    exact ⟨ordered_of_ascending ascends numbers, last⟩
  · rw [same] at numbers ⊢
    refine ⟨List.pairwise_append.mpr ⟨?_, List.pairwise_singleton _ _, fun b mem c last => ?_⟩,
      List.getLast?_concat⟩
    · exact ordered_of_ascending ascends fun b mem => numbers b (List.mem_append_left _ mem)
    · obtain rfl := List.mem_singleton.mp last
      exact Number.le_infinity (numbers b (List.mem_append_left _ mem))

/-! ## Counts -/

theorem cumulate_succ (start : Nat) (counts : List Nat) :
    cumulate (start + 1) counts = (cumulate start counts).map (· + 1) := by
  induction counts generalizing start with
  | nil => rfl
  | cons n rest ih => rw [cumulate, cumulate, List.map_cons, Nat.add_right_comm, ih]

theorem cumulate_zeros (bounds : List Float) :
    cumulate 0 (bounds.map fun _ => 0) = bounds.map fun _ => 0 := by
  induction bounds with
  | nil => rfl
  | cons b rest ih => rw [List.map_cons, cumulate, ih]

/-- One more value is one more beside each bound that it does not exceed. -/
theorem cumulate_countIn {bounds : List Float}
    (ordered : bounds.Pairwise fun a b => Number.float a ≤ .float b) (v : Number) {f : Float → Nat}
    {start : Nat} {counts : List Nat} (told : cumulate start counts = bounds.map f) :
    cumulate start (countIn v bounds counts) =
      bounds.map fun b => f b + if v ≤ .float b then 1 else 0 := by
  induction bounds generalizing start counts with
  | nil =>
    cases counts with
    | nil => rfl
    | cons n rest => cases told
  | cons b bounds ih =>
    obtain ⟨above, ordered⟩ := List.pairwise_cons.mp ordered
    cases counts with
    | nil => cases told
    | cons n counts =>
      obtain ⟨here, later⟩ := List.cons.inj told
      rw [countIn, List.map_cons]
      by_cases within : v ≤ .float b
      · -- the value is at most all bounds from here on, so each later count is one higher
        rw [if_pos within, if_pos within, cumulate, ← Nat.add_assoc, here, ← here, cumulate_succ,
          later, List.map_map]
        refine congrArg _ (List.map_congr_left fun c mem => ?_)
        rw [if_pos (Number.le_trans within (above c mem))]
        rfl
      · rw [if_neg within, if_neg within, cumulate, here, ← here, ih ordered later, Nat.add_zero]

/-- The counts after these numbers. -/
def countAll (bounds : List Float) (counts : List Nat) (ns : List Number) : List Nat :=
  ns.foldl (fun counts n => countIn n bounds counts) counts

/-- Beside each bound stands how many of the numbers it is not below. -/
theorem cumulate_countAll {bounds : List Float}
    (ordered : bounds.Pairwise fun a b => Number.float a ≤ .float b) {ns : List Number}
    {f : Float → Nat} {counts : List Nat} (told : cumulate 0 counts = bounds.map f) :
    cumulate 0 (countAll bounds counts ns) =
      bounds.map fun b => f b + ns.countP fun n => n ≤ .float b := by
  induction ns generalizing f counts with
  | nil => exact told
  | cons n ns ih =>
    rw [countAll, List.foldl_cons, ← countAll, ih (cumulate_countIn ordered n told)]
    refine List.map_congr_left fun b _ => ?_
    rw [List.countP_cons]
    simp only [decide_eq_true_eq]
    omega

/-! ## Values taken in -/

/-- The histogram after these numbers, whose sum this is. -/
def after (contents : Histogram) (ns : List Number) (total : Float) : Histogram :=
  { contents with
    counts := countAll contents.bounds contents.counts ns
    total := .float total }

/-- One more value, unless its sum with the others is refused; then nothing happens. -/
theorem update_after (fresh : Histogram) (ns : List Number) (total : Float) {v : Value} {n : Number}
    (number : v.number? = some n) :
    (fresh.after ns total).update v = match n.toFloat with
      | .ok x => (.ok (), fresh.after (ns ++ [n]) (total + x))
      | .error e => (.error e, fresh.after ns total) := by
  have read : v.number = .ok n := by rw [Value.number, number]
  have grown : (fresh.after ns total).total.grow v = n.toFloat.map fun x => .float (total + x) :=
    Value.grow_float number total
  rw [update, grown]
  cases n.toFloat with
  | error e => rfl
  | ok x =>
    have counted : countIn n fresh.bounds (countAll fresh.bounds fresh.counts ns) =
        countAll fresh.bounds fresh.counts (ns ++ [n]) := by
      rw [countAll, countAll, List.foldl_append, List.foldl_cons, List.foldl_nil]
    rw [Except.map]
    dsimp only [after]
    rw [read, ← counted]

/-! ## What is told -/

/-- What a histogram over these bounds tells of the numbers that it has taken in. -/
structure Tells (contents : Histogram) (bounds : List Float) (ns : List Number) : Prop where
  /-- The bounds are told in order, each with the number of those that are at most this bound. -/
  ordered : bounds.Pairwise fun a b => Number.float a ≤ .float b
  buckets_eq : contents.buckets =
    bounds.map fun b => (Decimal.boundText b, ns.countP fun n => n ≤ .float b)
  nondecreasing : (contents.buckets.map (·.2)).Pairwise (· ≤ ·)
  /-- The last bound is infinite, and all numbers count there. -/
  last_eq : contents.buckets.getLast? = some ("+Inf", ns.length)
  count_eq : contents.count = ns.length

theorem tells_after {biased : Value} {bounds : List Float}
    (ordered : bounds.Pairwise fun a b => Number.float a ≤ .float b)
    (closed : bounds.getLast? = some (1 / 0)) {ns : List Number} (numbers : ∀ n ∈ ns, ¬ n.IsNaN)
    (total : Float) : ((empty biased bounds).after ns total).Tells bounds ns := by
  have told : cumulate 0 ((empty biased bounds).after ns total).counts =
      bounds.map fun b => ns.countP fun n => n ≤ .float b := by
    refine (cumulate_countAll ordered (cumulate_zeros bounds)).trans ?_
    exact List.map_congr_left fun b _ => Nat.zero_add _
  have all : (ns.countP fun n => n ≤ .float (1 / 0)) = ns.length :=
    List.countP_eq_length.mpr fun n mem => decide_eq_true (Number.le_infinity (numbers n mem))
  have buckets_eq : ((empty biased bounds).after ns total).buckets =
      bounds.map fun b => (Decimal.boundText b, ns.countP fun n => n ≤ .float b) := by
    rw [buckets, told]
    exact List.zip_map' ..
  refine ⟨ordered, buckets_eq, ?_, ?_, ?_⟩
  · rw [buckets_eq, List.map_map, List.pairwise_map]
    refine ordered.imp fun {a b} atMost => List.countP_mono_left fun n _ below => ?_
    exact decide_eq_true (Number.le_trans (of_decide_eq_true below) atMost)
  · have infinite : Decimal.boundText (1 / 0) = "+Inf" := by decide +kernel
    rw [buckets_eq, List.getLast?_map, closed, Option.map_some, all, infinite]
  · rw [count, told, List.getLastD_eq_getLast?, List.getLast?_map, closed, Option.map_some, all]
    rfl

end Histogram

end StorageMetrics
