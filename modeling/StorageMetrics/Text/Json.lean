import StorageMetrics.Text.Hex
import StorageMetrics.Value.Text

/-
  JSON text in ASCII: characters beyond the printable ASCII range are written as escapes, those
  beyond the basic plane as a pair of surrogates. A text is therefore one line, whatever it holds.
-/

namespace StorageMetrics.Text.Json

/-- The escape of one code unit. -/
def unit (n : Nat) : List Char := '\\' :: 'u' :: hexDigits 4 n

/-- One character inside quotes. -/
def escape (c : Char) : List Char :=
  if c = '"' then ['\\', '"']
  else if c = '\\' then ['\\', '\\']
  else if c = '\n' then ['\\', 'n']
  else if c = '\r' then ['\\', 'r']
  else if c = '\t' then ['\\', 't']
  else if c = '\x0c' then ['\\', 'f']
  else if c = '\x08' then ['\\', 'b']
  else if 0x20 ≤ c.toNat ∧ c.toNat ≤ 0x7E then [c]
  else if c.toNat < 0x10000 then unit c.toNat
  else unit (0xD800 + (c.toNat - 0x10000) / 0x400) ++ unit (0xDC00 + (c.toNat - 0x10000) % 0x400)

def string (s : String) : String := String.ofList ('"' :: s.toList.flatMap escape ++ ['"'])

/-- What can be a key of an object. -/
def isName : Value → Bool
  | .list _ | .mapping _ | .other .. => false
  | _ => true

/-- The name that stands for a key: names are texts, whatever the key is. -/
def name : Value → String
  | .none => "null"
  | .bool true => "true"
  | .bool false => "false"
  | .float x => Decimal.Layout.json.text x
  | key => key.plain

mutual

/-- A value; members are parted by a comma and a space. What has no form of its own is written as its
plain text. -/
def value : Value → String
  | .none => "null"
  | .bool true => "true"
  | .bool false => "false"
  | .int n => toString n
  | .float x => Decimal.Layout.json.text x
  | .str s => string s
  | .list xs => "[" ++ ", ".intercalate (values xs) ++ "]"
  | .mapping fields => "\x7b" ++ ", ".intercalate (members fields) ++ "\x7d"
  | .other _ _ plain => string plain

def values : List Value → List String
  | [] => []
  | x :: xs => value x :: values xs

def members : List (Value × Value) → List String
  | [] => []
  | (key, x) :: rest => (string (name key) ++ ": " ++ value x) :: members rest

end

mutual

/-- Every key in the value has a name: it is a text, a number, a truth value or none. -/
def hasNames : Value → Bool
  | .list xs => allHaveNames xs
  | .mapping fields => membersHaveNames fields
  | _ => true

def allHaveNames : List Value → Bool
  | [] => true
  | x :: xs => hasNames x && allHaveNames xs

def membersHaveNames : List (Value × Value) → Bool
  | [] => true
  | (key, x) :: rest => isName key && hasNames x && membersHaveNames rest

end

/-- An object on one line, its fields in order. -/
def object (fields : List (String × Value)) : String := value (.record fields)

/-- An object over several lines, indented by two more than `margin`. -/
def indentedObject (margin : String) (fields : List (String × Value)) : String :=
  margin ++ "\x7b\n" ++
    ",\n".intercalate (fields.map fun f => margin ++ "  " ++ string f.1 ++ ": " ++ value f.2) ++
    "\n" ++ margin ++ "\x7d"

/-- A list of objects over several lines; the empty list is on one. -/
def indentedList (objects : List (List (String × Value))) : String :=
  if objects.isEmpty then "[]"
  else "[\n" ++ ",\n".intercalate (objects.map (indentedObject "  ")) ++ "\n]"

end StorageMetrics.Text.Json
