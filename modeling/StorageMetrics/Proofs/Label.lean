import StorageMetrics.Label
import Mathlib.Data.List.Basic

/-
  Labels with a level. A base on one line, a point and the digits of a number split into just these
  (`splitLevel_level`), so that labels of levels differ from level to level.
-/

namespace StorageMetrics

namespace Text

/-- ASCII digits are decimal digits. -/
theorem isDigit_of_ascii {c : Char} (ascii : c.isDigit = true) : isDigit c = true := by
  have range : 48 ≤ c.toNat ∧ c.toNat ≤ 57 := by simpa [Char.isDigit, UInt32.le_iff_toNat_le] using ascii
  have first : (zeroDigits.find? fun z => z ≤ c.toNat && c.toNat ≤ z + 9) = some 48 := by
    unfold zeroDigits
    rw [List.find?_cons_of_pos]
    simpa using range
  unfold isDigit digitValue?
  rw [first]
  rfl

theorem isDigit_of_mem_toString {n : Nat} {c : Char} (mem : c ∈ (toString n).toList) :
    isDigit c = true := by
  rw [Nat.toString_eq_ofList_toDigits, String.toList_ofList] at mem
  exact isDigit_of_ascii (Nat.isDigit_of_mem_toDigits (by decide) (by decide) mem)

end Text

theorem toList_toString_ne_nil (n : Nat) : (toString n).toList ≠ [] := by
  rw [Nat.toString_eq_ofList_toDigits, String.toList_ofList]
  exact Nat.toDigits_ne_nil

/-- Numbers that are written alike are equal. -/
theorem toString_injective {m n : Nat} (same : toString m = toString n) : m = n := by
  rw [Nat.toString_eq_ofList_toDigits, Nat.toString_eq_ofList_toDigits] at same
  have digits := congrArg (Nat.ofDigitChars 10 · 0) (String.ofList_injective same)
  simpa [Nat.ofDigitChars_ten_toDigits] using digits

namespace Label

theorem dropLineEnd_lineEnd (cs : List Char) : dropLineEnd (cs ++ ['\n']) = cs := by
  simp [dropLineEnd]

/-- A line end is left out, or there is none at the end. -/
theorem dropLineEnd_cases (cs : List Char) :
    (cs = dropLineEnd cs ++ ['\n']) ∨ dropLineEnd cs = cs ∧ cs.getLast? ≠ some '\n' := by
  obtain rfl | ⟨front, last, rfl⟩ := cs.eq_nil_or_concat'
  · exact Or.inr ⟨rfl, by simp⟩
  · by_cases ends : last = '\n'
    · subst ends
      exact Or.inl (by rw [dropLineEnd_lineEnd])
    · refine Or.inr ⟨?_, by simpa using ends⟩
      unfold dropLineEnd
      simp only [List.reverse_append, List.reverse_cons, List.reverse_nil, List.nil_append,
        List.singleton_append]
      split
      case h_1 rest start => exact absurd (List.cons.inj start).1 ends
      case h_2 => rfl

theorem mem_dropLineEnd {cs : List Char} {c : Char} (mem : c ∈ dropLineEnd cs) : c ∈ cs := by
  obtain ends | ⟨whole, -⟩ := dropLineEnd_cases cs
  · exact ends ▸ List.mem_append_left _ mem
  · exact whole ▸ mem

theorem dropLineEnd_of_getLast? {cs : List Char} (goesOn : cs.getLast? ≠ some '\n') :
    dropLineEnd cs = cs := by
  obtain ends | ⟨whole, -⟩ := dropLineEnd_cases cs
  · exact absurd (ends ▸ List.getLast?_concat) goesOn
  · exact whole

theorem dropLineEnd_of_not_mem {cs : List Char} (oneLine : '\n' ∉ cs) : dropLineEnd cs = cs :=
  dropLineEnd_of_getLast? fun ends => oneLine (List.mem_of_getLast? ends)

theorem dropLineEnd_of_digits {front digits : List Char} (some_ : digits ≠ [])
    (all : ∀ c ∈ digits, Text.isDigit c = true) : dropLineEnd (front ++ digits) = front ++ digits := by
  refine dropLineEnd_of_getLast? fun ends => ?_
  rw [List.getLast?_append_of_ne_nil _ some_] at ends
  exact absurd (all _ (List.mem_of_getLast? ends)) (by decide)

/-- A base on one line, a point and digits split at the point. -/
theorem levelChars?_of_digits {base digits : List Char} (present : base ≠ [])
    (oneLine : '\n' ∉ base) (some_ : digits ≠ []) (all : ∀ c ∈ digits, Text.isDigit c = true) :
    levelChars? (base ++ '.' :: digits) = some (base, digits) := by
  have whole : base ++ '.' :: digits = (base ++ ['.']) ++ digits := by simp
  have point : Text.isDigit '.' = false := by decide
  have back : ∀ c ∈ digits.reverse, Text.isDigit c = true := fun c mem => all c (by simpa using mem)
  unfold levelChars?
  rw [whole, dropLineEnd_of_digits some_ all]
  simp only [List.reverse_append, List.reverse_cons, List.reverse_nil, List.nil_append,
    List.singleton_append]
  rw [List.takeWhile_append_of_pos back, List.dropWhile_append_of_pos back]
  simp [point, some_, present, oneLine]

/-- Without a point there is no level. -/
theorem splitLevel_of_no_point {label : String} (plain : '.' ∉ label.toList) :
    splitLevel label = (label, none) := by
  have no_level : levelChars? label.toList = none := by
    unfold levelChars?
    dsimp only
    split
    case h_1 base left =>
      have point : '.' ∈ (dropLineEnd label.toList).reverse :=
        (List.dropWhile_sublist _).mem (left ▸ List.mem_cons_self)
      exact absurd (mem_dropLineEnd (List.mem_reverse.mp point)) plain
    case h_2 => rfl
  unfold splitLevel
  rw [no_level]

/-- A number behind a point is the level. -/
theorem splitLevel_level {base : String} (present : base ≠ "") (oneLine : '\n' ∉ base.toList)
    (n : Nat) : splitLevel (base ++ "." ++ toString n) = (base, some (toString n)) := by
  have chars : (base ++ "." ++ toString n).toList = base.toList ++ '.' :: (toString n).toList := by
    simp
  unfold splitLevel
  rw [chars, levelChars?_of_digits _ oneLine (toList_toString_ne_nil n) fun c mem =>
    Text.isDigit_of_mem_toString mem]
  · simp only [String.ofList_toList]
  · simpa using present

end Label

end StorageMetrics
