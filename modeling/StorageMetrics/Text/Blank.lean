/-
  Blank characters: the code points that separate words (general categories Zs, Zl and Zp, and the
  controls that break lines or fields). The zero-width space, the Mongolian vowel separator and the
  byte-order mark are not blank.
-/

namespace StorageMetrics.Text

def isBlank (c : Char) : Bool :=
  let n := c.toNat
  (9 ≤ n && n ≤ 13) || (28 ≤ n && n ≤ 32) || n = 0x85 || n = 0xA0 || n = 0x1680 ||
    (0x2000 ≤ n && n ≤ 0x200A) || n = 0x2028 || n = 0x2029 || n = 0x202F || n = 0x205F || n = 0x3000

/-- Every blank of ASCII is blank here. -/
theorem isBlank_of_isWhitespace (c : Char) (h : c.isWhitespace = true) : isBlank c = true := by
  simp only [Char.isWhitespace, Bool.or_eq_true, decide_eq_true_eq] at h
  rcases h with ((h | h) | h) | h <;> subst h <;> decide

/-- Blanks at the start are left out. -/
def dropBlanks (cs : List Char) : List Char := cs.dropWhile isBlank

/-- Blanks at the end are left out. -/
def dropEndBlanks (cs : List Char) : List Char := (cs.reverse.dropWhile isBlank).reverse

/-- Blanks at both ends are left out. -/
def strip (s : String) : String := String.ofList (dropEndBlanks (dropBlanks s.toList))

end StorageMetrics.Text
