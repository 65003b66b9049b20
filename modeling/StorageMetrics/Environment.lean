import StorageMetrics.OrderedMap
import StorageMetrics.Value.Text

/-
  The process environment and its typed readings. A reading falls back to a default when the
  variable is unset or, for numbers, blank; blanks around a value never count.
-/

namespace StorageMetrics

/-- Variables and their texts. -/
abbrev Environment := OrderedMap String String

namespace Text

/-- The words that switch a flag on, in any case and with blanks around them. -/
def flagWords : List String := ["1", "true", "yes", "on"]

def isFlagOn (s : String) : Bool := (String.ofList ((strip s).toList.map Char.toLower)) ∈ flagWords

end Text

namespace Environment

/-- The value of a flag variable, or what a missing one stands for. -/
def isOn (env : Environment) (name : String) (fallback : String) : Bool :=
  Text.isFlagOn ((env.get? name).getD fallback)

/-- The text of a variable without blanks around it. -/
def text (env : Environment) (name : String) (fallback : α) (read : String → α) : α :=
  match env.get? name with
  | some s => read (Text.strip s)
  | none => fallback

/-- A number: a blank variable counts as unset. -/
def number (env : Environment) (name : String) (fallback : α)
    (read : String → Except NumberError α) : Except NumberError α :=
  match env.get? name with
  | some s => if Text.strip s = "" then .ok fallback else read (Text.strip s)
  | none => .ok fallback

end Environment

end StorageMetrics
