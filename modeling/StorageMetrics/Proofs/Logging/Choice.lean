import StorageMetrics.Proofs.Logging.Setup

/-
  Which form the console has. The JSON flag is asked first, then the pattern, and the verbose flag
  only where the pattern leaves the choice to it. So the verbose flag has no part in what a pattern
  of the caller's own writes, and neither has the environment otherwise, but the JSON flag takes its
  place (`explicit_pattern_beats_verbosity`).
-/

namespace StorageMetrics.Logging

variable {env env' : Environment} {level file asked : Value} {fmt : String}

/-- The form that an environment gives a pattern of the caller's own. -/
def explicitForm (env : Environment) (fmt : String) : Form :=
  if env.isOn jsonVariable "" then .json else .pattern fmt

/-- A pattern that names a field, and is not the one that leaves the choice, is taken as it is. -/
theorem consoleForm_of_explicit (valid : Pattern.namesField fmt.toList = true)
    (other : fmt ≠ fullPattern) : consoleForm env (.str fmt) = .ok (explicitForm env fmt) := by
  have named : fmt ≠ "" := by
    rintro rfl
    exact absurd valid nofun
  unfold consoleForm explicitForm consolePattern
  by_cases on : env.isOn jsonVariable "" = true
  · rw [if_pos on, if_pos on]
  · simp [if_neg on, other, usablePattern, named, valid, Except.map]

/-- The two patterns of the console's own can be used. -/
theorem usablePattern_own :
    usablePattern (.str fullPattern) = .ok fullPattern ∧
    usablePattern (.str shortPattern) = .ok shortPattern := by decide +kernel

/-- The console's pattern is the one asked for, or both can be used. -/
theorem consolePattern_cases (env : Environment) (asked : Value) :
    consolePattern env asked = asked ∨
    (∃ p, usablePattern asked = .ok p) ∧ ∃ p, usablePattern (consolePattern env asked) = .ok p := by
  unfold consolePattern
  split
  case h_1 fmt =>
    by_cases other : fmt ≠ fullPattern
    · exact Or.inl (if_pos other)
    · obtain rfl := not_ne_iff.mp other
      refine Or.inr ⟨⟨_, usablePattern_own.1⟩, ?_⟩
      rw [if_neg other]
      split
      · exact ⟨_, usablePattern_own.1⟩
      · exact ⟨_, usablePattern_own.2⟩
  case h_2 => exact Or.inl rfl

/-- Only a pattern that cannot be used keeps the console from a form, and only without the JSON
flag. -/
theorem consoleForm_eq_error_iff {e : SetupError} :
    consoleForm env asked = .error e ↔
      env.isOn jsonVariable "" = false ∧ usablePattern asked = .error e := by
  unfold consoleForm
  cases on : env.isOn jsonVariable "" with
  | true => simp
  | false =>
    obtain same | ⟨⟨p, usable⟩, p', usable'⟩ := consolePattern_cases env asked
    · rw [same]
      cases usablePattern asked <;> simp [Except.map]
    · simp [usable, usable', Except.map]

/-- The environment has a part in setting up only through the console's form. -/
theorem State.setup_congr (s : State) (same : consoleForm env asked = consoleForm env' asked) :
    s.setup env level file asked = s.setup env' level file asked := by
  unfold State.setup
  rw [same]

end StorageMetrics.Logging
