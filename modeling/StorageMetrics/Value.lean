/-
  Values: what a caller may hand to the library and what a reading may report. A gauge, a ticker or
  a setting takes any of them; each operation says which kinds it accepts.
-/

namespace StorageMetrics

/-- Integers and floats stay apart; a truth value counts as the integer 0 or 1 where a number is wanted. -/
inductive Value where
  | none
  | bool (b : Bool)
  | int (n : Int)
  | float (x : Float)
  | str (s : String)
  | list (xs : List Value)
  /-- Values under keys. -/
  | mapping (entries : List (Value × Value))
  /-- Anything else: the name of its kind, the text that shows it and its plain text. -/
  | other (kind shown plain : String)
deriving Inhabited

namespace Value

/-- The name of the kind, as refusals show it. -/
def kindName : Value → String
  | none => "NoneType"
  | bool _ => "bool"
  | int _ => "int"
  | float _ => "float"
  | str _ => "str"
  | list _ => "list"
  | mapping _ => "dict"
  | other kind _ _ => kind

/-- Empty, zero and missing values count as absent. NaN counts as present. -/
def isPresent : Value → Bool
  | none => false
  | bool b => b
  | int n => n ≠ 0
  | float x => !(x == 0)
  | str s => s ≠ ""
  | list xs => !xs.isEmpty
  | mapping entries => !entries.isEmpty
  | other .. => true

/-- Values by name. -/
def record (fields : List (String × Value)) : Value := mapping (fields.map fun f => (str f.1, f.2))

/-- The text of a text value. -/
def text? : Value → Option String
  | str s => some s
  | _ => Option.none

end Value

end StorageMetrics
