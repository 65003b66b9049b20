import StorageMetrics.Text.Digit

/-
  Labels: what a metric measures, as written by whoever binds it (`GetMicros`,
  `SSTableCountPerLevel.3`). `snake` is the form that exported family names use; `splitLevel` takes
  a numeric suffix off, so that the levels of one label share a family.
-/

namespace StorageMetrics.Label

def isUpper (c : Char) : Bool := 'A' ≤ c && c ≤ 'Z'
def isLower (c : Char) : Bool := 'a' ≤ c && c ≤ 'z'
def isNumeral (c : Char) : Bool := '0' ≤ c && c ≤ '9'

/-- Characters that exported names keep. -/
def isWord (c : Char) : Bool := isUpper c || isLower c || isNumeral c || c = '_'

/-- A word starts between `a` and `b`: at a capital after a lower-case letter or a digit, and at
the last capital of a run that a lower-case letter follows. -/
def breaksBetween (a b : Char) (next : Option Char) : Bool :=
  isUpper b && ((isLower a || isNumeral a) || (isUpper a && next.any isLower))

/-- An underscore at every word start; `prev` is the character before. -/
def markWords : Option Char → List Char → List Char
  | _, [] => []
  | prev, c :: rest =>
    if prev.any (breaksBetween · c rest.head?) then '_' :: c :: markWords (some c) rest
    else c :: markWords (some c) rest

/-- Each run of characters that names cannot hold becomes one underscore; `inRun` tells that the
run has had its underscore. -/
def joinOthers : Bool → List Char → List Char
  | _, [] => []
  | inRun, c :: rest =>
    if isWord c then c :: joinOthers false rest
    else if inRun then joinOthers true rest
    else '_' :: joinOthers true rest

/-- Underscores at both ends are left out. -/
def trimUnderscores (cs : List Char) : List Char :=
  ((cs.dropWhile (· = '_')).reverse.dropWhile (· = '_')).reverse

def snakeChars (cs : List Char) : List Char :=
  (trimUnderscores (joinOthers false (markWords none cs))).map Char.toLower

/-- `GetMicros` is `get_micros`, `WALFileSyncMicros` is `wal_file_sync_micros`. -/
def snake (label : String) : String := String.ofList (snakeChars label.toList)

/-- One line end after the label does not count. -/
def dropLineEnd (cs : List Char) : List Char :=
  match cs.reverse with
  | '\n' :: rest => rest.reverse
  | _ => cs

/-- The base and the level, when the label is a base on one line, a point and decimal digits. -/
def levelChars? (cs : List Char) : Option (List Char × List Char) :=
  let back := (dropLineEnd cs).reverse
  let level := back.takeWhile Text.isDigit
  match back.dropWhile Text.isDigit with
  | '.' :: base =>
    if level.isEmpty || base.isEmpty || '\n' ∈ base then none
    else some (base.reverse, level.reverse)
  | _ => none

/-- `SSTableCountPerLevel.3` is `SSTableCountPerLevel` at level `3`; a label without a numeric
suffix is its own base. -/
def splitLevel (label : String) : String × Option String :=
  match levelChars? label.toList with
  | some (base, level) => (String.ofList base, some (String.ofList level))
  | none => (label, none)

/-- The label without its level. -/
def base (label : String) : String := (splitLevel label).1

/-- The digits of the level, as written. -/
def level? (label : String) : Option String := (splitLevel label).2

end StorageMetrics.Label
