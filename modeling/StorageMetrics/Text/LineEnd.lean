/-
  Line ends: a line ends in a line feed, a carriage return, or one after the other. A reader of
  lines sees line feeds alone.
-/

namespace StorageMetrics.Text

/-- Every line end becomes a line feed. -/
def plainLineEnds : List Char → List Char
  | '\r' :: '\n' :: rest => '\n' :: plainLineEnds rest
  | '\r' :: rest => '\n' :: plainLineEnds rest
  | c :: rest => c :: plainLineEnds rest
  | [] => []

theorem not_mem_plainLineEnds (cs : List Char) : '\r' ∉ plainLineEnds cs := by
  fun_induction plainLineEnds cs with
  | case1 rest ih => simp [ih]
  | case2 rest _ ih => simp [ih]
  | case3 c rest _ other ih =>
    simp only [List.mem_cons, not_or]
    exact ⟨fun h => other h.symm, ih⟩
  | case4 => simp

end StorageMetrics.Text
