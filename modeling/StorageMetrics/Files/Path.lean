/-
  Path texts and places. A path text names a place from the working directory on, or from the root
  when it starts with a slash. `cut` splits a text before its last part, which is what making the
  directories above a file recurses on (`length_cut_lt`); `normal` is the place that a text stands
  for when every part of it exists.
-/

namespace StorageMetrics

/-- The names on the way from the root down to a file or a directory. -/
abbrev Place := List String

namespace Path

/-- The name by which a directory knows itself. -/
def own : String := "."

/-- The name by which a directory knows the one above it. -/
def above : String := ".."

def isDot (name : String) : Bool := name = own || name = above

def isAbsolute (path : String) : Bool := path.toList.head? = some '/'

/-- A path that ends in a slash can only be that of a directory. -/
def endsInSlash (path : String) : Bool := path.toList.getLast? = some '/'

/-- No file has a name with a null character. -/
def holdsNull (path : String) : Bool := '\x00' ∈ path.toList

/-- The parts between the slashes. -/
def parts (path : String) : List String := (path.splitOn "/").filter (· ≠ "")

/-- The same path without its own-directory parts and without slashes that say nothing. -/
def tidy (path : String) : String :=
  let body := "/".intercalate ((parts path).filter (· ≠ own))
  if isAbsolute path then "/" ++ body else if body = "" then own else body

/-- The root as an absolute path names it: two slashes at the start stay two, any other number is one. -/
def rootText (path : String) : String :=
  if (path.toList.takeWhile (· = '/')).length = 2 then "//" else "/"

/-- One part further; the part for the directory above takes a name away. -/
def next (place : Place) (part : String) : Place :=
  if part = own then place else if part = above then place.dropLast else place ++ [part]

/-- The place of a path, read from a working directory. -/
def normal (home : Place) (path : String) : Place :=
  (parts path).foldl next (if isAbsolute path then [] else home)

/-! ## Cutting off the last part -/

/-- Slashes at the end are left out. -/
def dropEndSlashes (path : List Char) : List Char := (path.reverse.dropWhile (· = '/')).reverse

/-- What follows the last slash. -/
def last (path : List Char) : List Char := (path.reverse.takeWhile (· ≠ '/')).reverse

/-- What stands before the last slash; where that is nothing, the slashes themselves. -/
def parent (path : List Char) : List Char :=
  let head := (path.reverse.dropWhile (· ≠ '/')).reverse
  if dropEndSlashes head = [] then head else dropEndSlashes head

theorem length_dropWhile_le (p : α → Bool) (xs : List α) : (xs.dropWhile p).length ≤ xs.length := by
  induction xs with
  | nil => exact Nat.le_refl _
  | cons x xs ih => by_cases h : p x <;> simp [h]; omega

theorem length_dropEndSlashes_le (path : List Char) : (dropEndSlashes path).length ≤ path.length := by
  simpa [dropEndSlashes] using length_dropWhile_le (· = '/') path.reverse

/-- What stands before a last part is shorter than the whole. -/
theorem length_parent_add_last_le (path : List Char) :
    (parent path).length + (last path).length ≤ path.length := by
  have whole := congrArg List.length
    (List.takeWhile_append_dropWhile (p := (· ≠ '/')) (l := path.reverse))
  have bare := length_dropEndSlashes_le (path.reverse.dropWhile (· ≠ '/')).reverse
  simp only [List.length_append, List.length_reverse] at whole bare
  simp only [parent, last]
  split <;> simp only [List.length_reverse] <;> omega

/-- The path above and the last part; a slash at the end counts for nothing here. -/
def cut (path : List Char) : List Char × List Char :=
  if last path = [] then (parent (parent path), last (parent path)) else (parent path, last path)

theorem length_cut_lt {path : List Char} (h : (cut path).2 ≠ []) :
    (cut path).1.length < path.length := by
  have outer := length_parent_add_last_le path
  have inner := length_parent_add_last_le (parent path)
  have some := List.length_pos_iff.2 h
  unfold cut at some ⊢
  split at some <;> rename_i empty <;> simp only [empty, if_true, if_false] at * <;> omega

end Path

end StorageMetrics
