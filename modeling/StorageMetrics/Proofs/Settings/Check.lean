import StorageMetrics.Proofs.Label
import StorageMetrics.Proofs.Number
import StorageMetrics.Proofs.Settings

/-
  What the check of settings lets through. A value that is not below one, or not at most zero, need
  not be above: NaN is neither, so it passes for a window, though the range of the window's variable
  leaves it out. An export name has to be an identifier, but the end of a line may follow it. Loading
  gives neither: its window is in range, and no blank ends its export name. `check_accepts`: what the
  check accepts, which values the ranges of the variables leave out beside it, and that loaded
  settings have an identifier and a window above zero.
-/

namespace StorageMetrics

/-! ## Below one -/

theorem Number.int_lt_one_iff {n : Int} : Number.int n < .int 1 ↔ ¬ 1 ≤ n := by
  constructor
  · exact fun below enough => Number.not_int_lt_one enough below
  · intro few
    have ordered : n * Magnitude.one < 1 * Magnitude.one :=
      Int.mul_lt_mul_of_pos_right (by omega) (by decide +kernel)
    show Magnitude.lt (.finite (n * Magnitude.one)) (.finite (1 * Magnitude.one)) = true
    simp only [Magnitude.lt, Magnitude.le, Int.le_of_lt ordered, Int.not_le.mpr ordered,
      decide_true, decide_false, Bool.not_false, Bool.and_self]

/-! ## Identifiers -/

/-- A letter or an underscore, then letters, digits and underscores, and nothing else. -/
def IsIdentifier (cs : List Char) : Prop :=
  ∃ first rest, cs = first :: rest ∧
    (Label.isUpper first ∨ Label.isLower first ∨ first = '_') ∧
    ∀ c ∈ rest, Label.isUpper c ∨ Label.isLower c ∨ Label.isNumeral c ∨ c = '_'

theorem Label.isWord_iff {c : Char} :
    isWord c = true ↔ isUpper c ∨ isLower c ∨ isNumeral c ∨ c = '_' := by
  simp [isWord, or_assoc]

/-- A digit is no letter and no underscore. -/
theorem Label.not_letter_of_isNumeral {c : Char} (digit : isNumeral c = true) :
    ¬ (isUpper c ∨ isLower c ∨ c = '_') := by
  have low : c.toNat ≤ '9'.toNat := by
    simp only [isNumeral, Bool.and_eq_true, decide_eq_true_eq] at digit
    exact digit.2
  simp only [isUpper, isLower, Bool.and_eq_true, decide_eq_true_eq]
  rintro (⟨above, -⟩ | ⟨above, -⟩ | rfl)
  · have high : 'A'.toNat ≤ c.toNat := above
    exact absurd (Nat.le_trans high low) (by decide)
  · have high : 'a'.toNat ≤ c.toNat := above
    exact absurd (Nat.le_trans high low) (by decide)
  · exact absurd low (by decide)

theorem Label.isWord_not_numeral_iff {c : Char} :
    (isWord c && !isNumeral c) = true ↔ isUpper c ∨ isLower c ∨ c = '_' := by
  rw [Bool.and_eq_true, isWord_iff, Bool.not_eq_true']
  constructor
  · rintro ⟨upper | lower | digit | underscore, other⟩
    · exact Or.inl upper
    · exact Or.inr (Or.inl lower)
    · exact absurd (digit.symm.trans other) (by decide)
    · exact Or.inr (Or.inr underscore)
  · intro letter
    refine ⟨?_, Bool.eq_false_iff.mpr fun digit => not_letter_of_isNumeral digit letter⟩
    exact letter.imp_right (Or.imp_right Or.inr)

theorem isIdentifier_iff {cs : List Char} : isIdentifier cs = true ↔ IsIdentifier cs := by
  unfold isIdentifier IsIdentifier
  cases cs with
  | nil => simp
  | cons first rest =>
    rw [Bool.and_eq_true, Label.isWord_not_numeral_iff, List.all_eq_true]
    simp only [Label.isWord_iff]
    constructor
    · rintro ⟨starts, goesOn⟩
      exact ⟨first, rest, rfl, starts, goesOn⟩
    · rintro ⟨_, _, same, starts, goesOn⟩
      obtain ⟨rfl, rfl⟩ := List.cons.inj same
      exact ⟨starts, goesOn⟩

theorem IsIdentifier.lineEnd_not_mem {cs : List Char} (named : IsIdentifier cs) : '\n' ∉ cs := by
  obtain ⟨first, rest, rfl, starts, goesOn⟩ := named
  intro mem
  obtain rfl | inside := List.mem_cons.mp mem
  · exact absurd starts (by decide)
  · exact absurd (goesOn _ inside) (by decide)

/-- An export name is an identifier, and the end of a line may follow it. -/
theorem isExportName_iff {s : String} :
    isExportName s = true ↔
      IsIdentifier s.toList ∨ ∃ front, IsIdentifier front ∧ s.toList = front ++ ['\n'] := by
  rw [isExportName, isIdentifier_iff]
  constructor
  · intro named
    obtain ends | ⟨whole, -⟩ := Label.dropLineEnd_cases s.toList
    · exact Or.inr ⟨_, named, ends⟩
    · exact Or.inl (whole ▸ named)
  · rintro (named | ⟨front, named, ends⟩)
    · rw [Label.dropLineEnd_of_not_mem named.lineEnd_not_mem]
      exact named
    · rw [ends, Label.dropLineEnd_lineEnd]
      exact named

/-! ## Stripped texts -/

namespace Text

/-- What is left after blanks at the end are left out ends in no blank. -/
theorem isBlank_getLast_dropEndBlanks {cs : List Char} {last : Char}
    (ends : (dropEndBlanks cs).getLast? = some last) : isBlank last = false := by
  rw [dropEndBlanks, List.getLast?_reverse] at ends
  have kept := List.head?_dropWhile_not isBlank cs.reverse
  rw [ends] at kept
  simpa using kept

theorem getLast_strip_ne_lineEnd (s : String) : (strip s).toList.getLast? ≠ some '\n' := by
  intro ends
  rw [strip, String.toList_ofList] at ends
  exact absurd (isBlank_getLast_dropEndBlanks ends) (by decide)

end Text

namespace Settings

/-- A stripped text that is an export name is an identifier. -/
theorem isIdentifier_strip {s : String} (named : isExportName (Text.strip s) = true) :
    IsIdentifier (Text.strip s).toList := by
  obtain whole | ⟨front, -, ends⟩ := isExportName_iff.mp named
  · exact whole
  · refine absurd ?_ (Text.getLast_strip_ne_lineEnd s)
    rw [ends, List.getLast?_concat]

/-- What the variable gives for an export name is an identifier, or it is refused. -/
theorem isIdentifier_chosen (env : Environment) :
    IsIdentifier (chosen defaultExportName isExportName (givenExportName env)).toList := by
  have usual : IsIdentifier defaultExportName.toList := isIdentifier_iff.mp (by decide +kernel)
  unfold chosen givenExportName Environment.text
  dsimp only
  cases env.get? exportNameVariable with
  | none => simpa using usual
  | some s =>
    dsimp only [id]
    split
    case isTrue named => exact isIdentifier_strip named
    case isFalse => exact usual

/-- At least one level, an identifier for an export name, and a window above zero. -/
structure Sound (s : Settings) : Prop where
  levels : ∃ n, s.maxLevels = .int n ∧ 1 ≤ n
  named : IsIdentifier s.exportName.toList
  lasting : ∃ x, s.windowSeconds = .float x ∧ Number.int 0 < .float x

theorem sound_ofReadings {env : Environment} {strict : Bool} {s : Settings}
    (made : ofReadings env strict = .ok s) : Sound s := by
  obtain rfl := Except.ok.inj ((ofReadings_eq env strict).symm.trans made)
  exact {
    levels := ⟨_, rfl, of_decide_eq_true (chosen_inRange defaultMaxLevels_isLevelCount _)⟩
    named := isIdentifier_chosen env
    lasting := ⟨_, rfl, of_decide_eq_true (chosen_inRange defaultWindowSeconds_isWindow _)⟩ }

/-- What reading gives is what the variables give. -/
theorem ofReadings_of_read {env : Environment} {s : Settings} (gave : (read env).1 = .ok s) :
    ofReadings env (env.isOn strictVariable "") = .ok s := by
  unfold read at gave
  dsimp only at gave
  split at gave
  · cases gave
  · cases made : ofReadings env (env.isOn strictVariable "") with
    | error e => rw [made] at gave; cases gave
    | ok other => rw [made] at gave; exact gave

theorem sound_of_loaded {l : Loading} {s : Settings} (gave : l.loaded.outcome = .ok s) :
    Sound s := by
  unfold Loading.loaded load at gave
  dsimp only at gave
  split at gave
  · cases gave
  · cases result : (read (prepare l.start l.files l.path).environment).1 with
    | error e => rw [result] at gave; cases gave
    | ok other =>
      rw [result] at gave
      obtain rfl := Except.ok.inj gave
      exact sound_ofReadings (ofReadings_of_read result)

/-! ## The check -/

/-- Levels, export name and window are checked in this order. -/
theorem ofValues_decided (levels : Int) (name : String) (seconds : Float) (strict : Value) :
    (¬ 1 ≤ levels ∧ ofValues (.int levels) (.str name) (.float seconds) strict =
      .error (.levelsBelowOne (.int levels))) ∨
    (1 ≤ levels ∧ isExportName name = false ∧
      ofValues (.int levels) (.str name) (.float seconds) strict = .error (.badExportName name)) ∨
    (1 ≤ levels ∧ isExportName name = true ∧ Number.float seconds ≤ .int 0 ∧
      ofValues (.int levels) (.str name) (.float seconds) strict =
        .error (.windowNotPositive (.float seconds))) ∨
    (1 ≤ levels ∧ isExportName name = true ∧ ¬ Number.float seconds ≤ .int 0 ∧
      ofValues (.int levels) (.str name) (.float seconds) strict =
        .ok ⟨.int levels, name, .float seconds, strict⟩) := by
  simp only [ofValues, Value.number?, Value.text?, Number.int_lt_one_iff]
  by_cases enough : 1 ≤ levels
  · cases named : isExportName name with
    | false => simp [enough]
    | true =>
      by_cases ended : Number.float seconds ≤ .int 0
      · simp [enough, ended]
      · simp [enough, ended]
  · simp [enough]

theorem ofValues_eq_ok_iff {levels : Int} {name : String} {seconds : Float} {strict : Value}
    {s : Settings} :
    ofValues (.int levels) (.str name) (.float seconds) strict = .ok s ↔
      (1 ≤ levels ∧ isExportName name = true ∧ ¬ Number.float seconds ≤ .int 0) ∧
        s = ⟨.int levels, name, .float seconds, strict⟩ := by
  obtain ⟨few, result⟩ | ⟨-, unnamed, result⟩ | ⟨-, -, ended, result⟩ |
    ⟨enough, named, lasting, result⟩ := ofValues_decided levels name seconds strict
  · simp [result, few]
  · simp [result, unnamed]
  · simp [result, ended]
  · simp [result, enough, named, lasting, eq_comm]

/-- The check accepts at least one level, an identifier that the end of a line may follow, and a
window that is above zero or NaN, and nothing else. These are the values in the ranges of the three
variables, but for the window NaN, which the range of its variable leaves out. What is accepted is in
the settings as it was given, and a refusal has a message. Settings that loading gives have at least
one level, an identifier and a window above zero. -/
theorem check_accepts (levels : Int) (name : String) (seconds : Float) (strict : Value) :
    ((∃ s, ofValues (.int levels) (.str name) (.float seconds) strict = .ok s) ↔
      1 ≤ levels ∧
        (IsIdentifier name.toList ∨
          ∃ front, IsIdentifier front ∧ name.toList = front ++ ['\n']) ∧
        (Number.int 0 < .float seconds ∨ (Number.float seconds).IsNaN)) ∧
    ((∃ s, ofValues (.int levels) (.str name) (.float seconds) strict = .ok s) ↔
      isLevelCount levels = true ∧ isExportName name = true ∧
        (isWindow seconds = true ∨ (Number.float seconds).IsNaN)) ∧
    (isWindow seconds = true → ¬ (Number.float seconds).IsNaN) ∧
    (∀ s, ofValues (.int levels) (.str name) (.float seconds) strict = .ok s →
      s = ⟨.int levels, name, .float seconds, strict⟩) ∧
    (∀ e, ofValues (.int levels) (.str name) (.float seconds) strict = .error e →
      ∃ text, e.message = some text) ∧
    ∀ (l : Loading) s, l.loaded.outcome = .ok s → Sound s := by
  have accepted : (∃ s, ofValues (.int levels) (.str name) (.float seconds) strict = .ok s) ↔
      1 ≤ levels ∧ isExportName name = true ∧
        (Number.int 0 < .float seconds ∨ (Number.float seconds).IsNaN) := by
    simp only [ofValues_eq_ok_iff, exists_and_left, exists_eq, and_true, Number.not_le_int_iff]
  refine ⟨?_, ?_, ?_, ?_, ?_, fun l s gave => sound_of_loaded gave⟩
  · rw [accepted, isExportName_iff]
  · rw [accepted, isLevelCount, isWindow, decide_eq_true_iff, decide_eq_true_iff]
  · intro inside
    exact Number.not_isNaN_of_lt (of_decide_eq_true inside)
  · intro s made
    exact (ofValues_eq_ok_iff.mp made).2
  · intro e refused
    obtain ⟨-, result⟩ | ⟨-, -, result⟩ | ⟨-, -, -, result⟩ | ⟨-, -, -, result⟩ :=
      ofValues_decided levels name seconds strict <;> cases result.symm.trans refused
    all_goals exact ⟨_, rfl⟩

/-- The check accepts a window that is NaN, which loading refuses, and an export name that ends in
the end of a line, which is no identifier. -/
theorem check_accepts_nanWindow :
    ((∃ s, ofValues (.int 7) (.str "db") (.float (0 / 0)) (.bool false) = .ok s) ∧
      ¬ Number.int 0 < .float (0 / 0) ∧ isWindow (0 / 0) = false) ∧
    ((∃ s, ofValues (.int 7) (.str "db\n") (.float 10) (.bool false) = .ok s) ∧
      ¬ IsIdentifier "db\n".toList) := by
  refine ⟨⟨?_, by decide +kernel, by decide +kernel⟩, ?_, ?_⟩
  · exact ⟨_, ofValues_eq_ok_iff.mpr ⟨⟨by decide, by decide +kernel, by decide +kernel⟩, rfl⟩⟩
  · exact ⟨_, ofValues_eq_ok_iff.mpr ⟨⟨by decide, by decide +kernel, by decide +kernel⟩, rfl⟩⟩
  · exact fun named => named.lineEnd_not_mem (by decide +kernel)

end Settings

end StorageMetrics
