import StorageMetrics.Text.Json
import StorageMetrics.Text.Json.Reader
import Mathlib.Tactic.SplitIfs

/-
  Quoted texts. A character is escaped in one of four ways (`IsEscape`), each of printable ASCII
  alone, and each reads back as the character: surrogates join, and every other escape stands for
  itself. So what stands between the quotes reads back up to the closing one, whatever the text is
  (`readText_escaped`).
-/

namespace StorageMetrics.Text.Json

/-- A character of one line of ASCII. -/
def IsPrintable (c : Char) : Prop := 0x20 ≤ c.toNat ∧ c.toNat ≤ 0x7E

instance (c : Char) : Decidable (IsPrintable c) := inferInstanceAs (Decidable (_ ∧ _))

/-- The four kinds of escapes: a letter after a backslash, the character itself, one code unit or
two. -/
inductive IsEscape (c : Char) : List Char → Prop
  | letter {x : Char} (stands : escaped x = c) (other : x ≠ 'u') (shown : IsPrintable x) :
      IsEscape c ['\\', x]
  | itself (quote : c ≠ '"') (slash : c ≠ '\\') (shown : IsPrintable c) : IsEscape c [c]
  | basic (small : c.toNat < 0x10000) : IsEscape c (unit c.toNat)
  | pair (beyond : 0x10000 ≤ c.toNat) :
      IsEscape c (unit (0xD800 + (c.toNat - 0x10000) / 0x400) ++
        unit (0xDC00 + (c.toNat - 0x10000) % 0x400))

theorem isEscape_escape (c : Char) : IsEscape c (escape c) := by
  unfold escape
  split_ifs with quote slash line return_ tab page back shown basic
  iterate 7
    · subst_vars
      refine .letter ?_ ?_ ?_ <;> decide
  · exact .itself quote slash shown
  · exact .basic basic
  · exact .pair (Nat.le_of_not_lt basic)

/-- Four hexadecimal digits show the number that they were written for. -/
theorem unitOf_hexDigits {n : Nat} (small : n < 0x10000) :
    ∃ a b c d, hexDigits 4 n = [a, b, c, d] ∧ unitOf a b c d = n := by
  refine ⟨_, _, _, _, rfl, ?_⟩
  simp only [unitOf, List.foldl_cons, List.foldl_nil]
  have digit (k : Nat) : hexValue? (hexDigit (k % 16)) = some (k % 16) :=
    hexValue?_hexDigit _ (Nat.mod_lt _ (by decide))
  simp only [digit, Option.getD_some]
  omega

theorem readText_unit {n : Nat} (small : n < 0x10000) (pending : Option Nat)
    (sofar rest : List Char) :
    readText pending sofar (unit n ++ rest) =
      readText (pushUnit pending n sofar).1 (pushUnit pending n sofar).2 rest := by
  obtain ⟨a, b, c, d, digits, value⟩ := unitOf_hexDigits small
  simp only [unit, digits, List.cons_append, List.nil_append, readText, value]

/-- A letter after a backslash reads as the character it stands for. -/
theorem readText_letter {x : Char} (other : x ≠ 'u') (sofar rest : List Char) :
    readText none sofar ('\\' :: x :: rest) = readText none (escaped x :: sofar) rest := by
  rw [readText.eq_4]
  rintro a b c d rest' rfl
  exact absurd rfl other

/-- A character of the basic plane reads back from its code unit. -/
theorem readText_basic {c : Char} (basic : c.toNat < 0x10000) (sofar rest : List Char) :
    readText none sofar (unit c.toNat ++ rest) = readText none (c :: sofar) rest := by
  have valid : c.toNat < 0xD800 ∨ 0xDFFF < c.toNat ∧ c.toNat < 0x110000 := c.valid
  have single : ¬ (0xD800 ≤ c.toNat ∧ c.toNat < 0xDC00) := by omega
  rw [readText_unit basic]
  simp only [pushUnit, if_neg single, Char.ofNat_toNat]

/-- Two surrogates join to one character. -/
theorem readText_surrogates {high low : Nat} (first : 0xD800 ≤ high ∧ high < 0xDC00)
    (second : 0xDC00 ≤ low ∧ low < 0xE000) (sofar rest : List Char) :
    readText none sofar (unit high ++ (unit low ++ rest)) = readText none
      (Char.ofNat (0x10000 + (high - 0xD800) * 0x400 + (low - 0xDC00)) :: sofar) rest := by
  rw [readText_unit (by omega), readText_unit (by omega)]
  simp only [pushUnit, if_pos first, if_pos second, List.tail_cons]

/-- A character beyond the basic plane reads back from its surrogates. -/
theorem readText_pair {c : Char} (beyond : 0x10000 ≤ c.toNat) (sofar rest : List Char) :
    readText none sofar (unit (0xD800 + (c.toNat - 0x10000) / 0x400) ++
      (unit (0xDC00 + (c.toNat - 0x10000) % 0x400) ++ rest)) = readText none (c :: sofar) rest := by
  have valid : c.toNat < 0xD800 ∨ 0xDFFF < c.toNat ∧ c.toNat < 0x110000 := c.valid
  have whole : 0x10000 + (0xD800 + (c.toNat - 0x10000) / 0x400 - 0xD800) * 0x400 +
      (0xDC00 + (c.toNat - 0x10000) % 0x400 - 0xDC00) = c.toNat := by omega
  rw [readText_surrogates (by omega) (by omega), whole, Char.ofNat_toNat]

/-- Whatever its escape, a character reads back as itself. -/
theorem readText_escape (c : Char) (sofar rest : List Char) :
    readText none sofar (escape c ++ rest) = readText none (c :: sofar) rest := by
  have kind := isEscape_escape c
  generalize escape c = cs at kind ⊢
  cases kind with
  | letter stands other => rw [← stands]; exact readText_letter other sofar rest
  | itself quote slash => exact readText.eq_5 _ _ _ _ quote (by simp [slash]) (by simp [slash])
  | basic small => exact readText_basic small sofar rest
  | pair beyond => rw [List.append_assoc]; exact readText_pair beyond sofar rest

/-- What stands between the quotes reads back up to the closing one. -/
theorem readText_escaped (cs sofar rest : List Char) :
    readText none sofar (cs.flatMap escape ++ '"' :: rest) =
      some (String.ofList (sofar.reverse ++ cs), rest) := by
  induction cs generalizing sofar with
  | nil => simp [readText]
  | cons c cs ih =>
    rw [List.flatMap_cons, List.append_assoc, readText_escape, ih]
    simp

/-! ## Printable characters -/

theorem isPrintable_hexDigit {n : Nat} (small : n < 16) : IsPrintable (hexDigit n) := by
  match n, small with
  | 0, _ | 1, _ | 2, _ | 3, _ | 4, _ | 5, _ | 6, _ | 7, _ | 8, _ | 9, _ | 10, _ | 11, _ | 12, _
  | 13, _ | 14, _ | 15, _ => decide
  | n + 16, small => omega

theorem isPrintable_of_mem_hexDigits {width n : Nat} {c : Char} (mem : c ∈ hexDigits width n) :
    IsPrintable c := by
  induction width generalizing n with
  | zero => simp [hexDigits] at mem
  | succ width ih =>
    obtain before | rfl := by simpa [hexDigits] using mem
    · exact ih before
    · exact isPrintable_hexDigit (Nat.mod_lt _ (by decide))

theorem isPrintable_of_mem_unit {n : Nat} {c : Char} (mem : c ∈ unit n) : IsPrintable c := by
  obtain rfl | rfl | digit := by simpa [unit] using mem
  · decide
  · decide
  · exact isPrintable_of_mem_hexDigits digit

theorem isPrintable_of_mem_escape {c d : Char} (mem : d ∈ escape c) : IsPrintable d := by
  have kind := isEscape_escape c
  generalize escape c = cs at kind mem
  cases kind with
  | letter stands other shown =>
    obtain rfl | rfl := by simpa using mem
    · decide
    · exact shown
  | itself quote slash shown => exact List.mem_singleton.mp mem ▸ shown
  | basic small => exact isPrintable_of_mem_unit mem
  | pair beyond =>
    exact (List.mem_append.mp mem).elim isPrintable_of_mem_unit isPrintable_of_mem_unit

/-- A quoted text is printable, whatever the text is. -/
theorem isPrintable_of_mem_string {s : String} {c : Char} (mem : c ∈ (string s).toList) :
    IsPrintable c := by
  obtain rfl | ⟨d, -, inside⟩ | rfl : c = '"' ∨ (∃ d ∈ s.toList, c ∈ escape d) ∨ c = '"' := by
    simpa [string] using mem
  · decide
  · exact isPrintable_of_mem_escape inside
  · decide

end StorageMetrics.Text.Json
