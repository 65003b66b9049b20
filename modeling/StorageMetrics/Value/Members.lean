import StorageMetrics.Number

/-
  What a value is made of when it is gone through, one member after the other.
-/

namespace StorageMetrics.Value

/-- The members of a list, the characters of a text, the keys of a mapping. -/
def members? : Value → Option (List Value)
  | list xs => some xs
  | str s => some (s.toList.map fun c => str (String.ofList [c]))
  | mapping entries => some (entries.map (·.1))
  | _ => Option.none

/-- The members, or the refusal of a value that has none. -/
def members (v : Value) : Except NumberError (List Value) :=
  match v.members? with
  | some xs => .ok xs
  | Option.none => .error .wrongKind

/-- What a value becomes when another one is added to it where it stands: a list takes in the other's
members, anything else is replaced by the sum. -/
def grow (a b : Value) : Except NumberError Value :=
  match a with
  | list xs => do return list (xs ++ (← b.members))
  | a => a.add b

/-- A member that is not there yet goes to the end. -/
def addTo (xs : List Value) (x : Value) : List Value := if xs.any (·.same x) then xs else xs ++ [x]

/-- Each member once, where it first stands. -/
def distinct (xs : List Value) : List Value := xs.foldl addTo []

/-- Going through a list finds what it was made of. -/
theorem members?_list (xs : List Value) : (list xs).members? = some xs := rfl

end StorageMetrics.Value
