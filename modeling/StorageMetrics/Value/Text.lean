import StorageMetrics.Decimal.Layout
import StorageMetrics.Decimal.Numeral

/-
  The text of a value, in two forms: `shown` quotes texts and is what refusals print, `plain`
  gives a text as it is. Also the readings that accept texts: a float or an integer from any value
  that stands for one.
-/

namespace StorageMetrics

namespace Value

mutual

/-- The text that tells values apart: texts are quoted, lists and mappings bracketed. -/
def shown : Value → String
  | none => "None"
  | bool true => "True"
  | bool false => "False"
  | int n => toString n
  | float x => Decimal.text x
  | str s => Text.quoted s
  | list xs => "[" ++ ", ".intercalate (shownAll xs) ++ "]"
  | mapping entries => "\x7b" ++ ", ".intercalate (shownEntries entries) ++ "\x7d"
  | other _ shown _ => shown

def shownAll : List Value → List String
  | [] => []
  | x :: xs => shown x :: shownAll xs

def shownEntries : List (Value × Value) → List String
  | [] => []
  | (key, x) :: rest => (shown key ++ ": " ++ shown x) :: shownEntries rest

end

/-- A text stands for itself; the members of a list are shown. -/
def plain : Value → String
  | str s => s
  | other _ _ plain => plain
  | v => v.shown

/-- Several values in a fixed order, shown in parentheses; a single one is followed by a comma. -/
def tuple (xs : List Value) : Value :=
  let text := "(" ++ ", ".intercalate (shownAll xs) ++ (if xs.length = 1 then ",)" else ")")
  other "tuple" text text

/-- The float a value stands for; a text is read as a numeral. -/
def toFloat : Value → Except NumberError Float
  | str s => Decimal.readFloat s
  | v => do (← v.number).toFloat

/-- The integer a value stands for; a text is read as a numeral and a fraction is cut off. -/
def toInt : Value → Except NumberError Int
  | str s => Decimal.readInt s
  | v => do (← v.number).truncate

/-- An integer with more digits than are read back is not written out. -/
def requireWritable : Value → Except NumberError Unit
  | int n => if n.natAbs < Nat.pow 10 Decimal.digitLimit then .ok () else .error .tooLongToWrite
  | _ => .ok ()

mutual

/-- Every integer in the value can be written out. -/
def isWritable : Value → Bool
  | int n => n.natAbs < Nat.pow 10 Decimal.digitLimit
  | list xs => areWritable xs
  | mapping entries => areEntriesWritable entries
  | _ => true

def areWritable : List Value → Bool
  | [] => true
  | x :: xs => isWritable x && areWritable xs

def areEntriesWritable : List (Value × Value) → Bool
  | [] => true
  | (key, x) :: rest => isWritable key && isWritable x && areEntriesWritable rest

end

end Value

namespace NumberError

/-- The wording of a refusal; a wrong kind and an overflow have none. -/
def message : NumberError → Option String
  | wrongKind => none
  | overflow => none
  | nanToInt => some "cannot convert float NaN to integer"
  | notAnInteger q => some ("invalid literal for int() with base 10: " ++ q)
  | notADecimal q => some ("could not convert string to float: " ++ q)
  | tooManyDigits n => some ("Exceeds the limit (4300 digits) for integer string conversion: value has "
      ++ toString n ++ " digits; use sys.set_int_max_str_digits() to increase the limit")
  | tooLongToWrite => some ("Exceeds the limit (4300 digits) for integer string conversion; " ++
      "use sys.set_int_max_str_digits() to increase the limit")

end NumberError

end StorageMetrics
