import StorageMetrics.Number

/-
  The order of numbers. NaN is at most nothing, and nothing is at most NaN; of any two other numbers
  one is at most the other, and infinity is the last of them.
-/

namespace StorageMetrics

theorem Magnitude.not_le_iff {a b : Magnitude} (number : b ≠ nan) :
    ¬ a.le b = true ↔ b.lt a = true ∨ a = nan := by
  constructor
  · intro notBelow
    by_cases none : a = nan
    · exact Or.inr none
    · have above : b.le a = true := (le_total none number).resolve_left notBelow
      exact Or.inl (by simp [lt, above, notBelow])
  · rintro (above | rfl)
    · intro below
      simp [lt, below] at above
    · simp [le]

/-- No number. -/
def Number.IsNaN (n : Number) : Prop := n.magnitude = .nan

theorem Number.not_le_int_iff {a : Number} {n : Int} : ¬ a ≤ .int n ↔ .int n < a ∨ a.IsNaN :=
  Magnitude.not_le_iff (a := a.magnitude) (b := .finite (n * Magnitude.one)) (by simp)

theorem Number.not_isNaN_of_lt {a b : Number} (below : a < b) : ¬ b.IsNaN := by
  intro none
  have strict : a.magnitude.lt b.magnitude = true := below
  rw [none] at strict
  revert strict
  cases a.magnitude <;> simp [Magnitude.lt, Magnitude.le]

/-- What is not below another number is above it or equal to it. -/
theorem Number.le_of_not_lt {a b : Number} (ha : ¬ a.IsNaN) (hb : ¬ b.IsNaN) (notBelow : ¬ b < a) :
    a ≤ b := by
  by_cases atMost : a ≤ b
  · exact atMost
  · obtain below | none := (Magnitude.not_le_iff (a := a.magnitude) hb).mp atMost
    · exact absurd below notBelow
    · exact absurd none ha

theorem Number.le_infinity {n : Number} (number : ¬ n.IsNaN) : n ≤ .float (1 / 0) := by
  have top : (Number.float (1 / 0)).magnitude = .infinite := by decide +kernel
  show n.magnitude.le (Number.float (1 / 0)).magnitude = true
  rw [top]
  cases place : n.magnitude with
  | nan => exact absurd place number
  | _ => rfl

end StorageMetrics
