import StorageMetrics.OrderedMap
import StorageMetrics.Text.Hex
import StorageMetrics.Value.Text

/-
  Reading JSON text. A reader takes what it reads from the front and gives the rest; where it finds
  nothing of its kind it gives nothing. A number keeps its kind: one that is written with a point, an
  exponent or a word is a float. Of members with one name the last counts, in the place of the first.
-/

namespace StorageMetrics.Text.Json

def isSpace (c : Char) : Bool := c = ' ' || c = '\n' || c = '\r' || c = '\t'

def dropSpaces (cs : List Char) : List Char := cs.dropWhile isSpace

/-- The character that a letter after a backslash stands for. -/
def escaped (c : Char) : Char :=
  match c with
  | 'n' => '\n'
  | 'r' => '\r'
  | 't' => '\t'
  | 'f' => '\x0c'
  | 'b' => '\x08'
  | c => c

/-- The number that four hexadecimal digits show. -/
def unitOf (a b c d : Char) : Nat :=
  [a, b, c, d].foldl (fun n c => n * 16 + (hexValue? c).getD 0) 0

/-- A code unit after the characters read so far, the last one first. The second unit of a pair joins
the first one, which stands as its placeholder until then. -/
def pushUnit (pending : Option Nat) (n : Nat) (sofar : List Char) : Option Nat × List Char :=
  match pending with
  | some high =>
    if 0xDC00 ≤ n ∧ n < 0xE000 then
      (none, Char.ofNat (0x10000 + (high - 0xD800) * 0x400 + (n - 0xDC00)) :: sofar.tail)
    else (none, Char.ofNat n :: sofar)
  | none =>
    if 0xD800 ≤ n ∧ n < 0xDC00 then (some n, '\ufffd' :: sofar) else (none, Char.ofNat n :: sofar)

/-- The text up to the closing quote. -/
def readText (pending : Option Nat) (sofar : List Char) : List Char → Option (String × List Char)
  | [] => none
  | '"' :: rest => some (String.ofList sofar.reverse, rest)
  | '\\' :: 'u' :: a :: b :: c :: d :: rest =>
    let (pending, sofar) := pushUnit pending (unitOf a b c d) sofar
    readText pending sofar rest
  | '\\' :: c :: rest => readText none (escaped c :: sofar) rest
  | c :: rest => readText none (c :: sofar) rest

/-- Numbers and words are made of these. -/
def isWordPart (c : Char) : Bool := c.isAlphanum || c = '-' || c = '+' || c = '.'

/-- The value of a number or a word. -/
def wordValue (word : String) : Option Value :=
  match word with
  | "null" => some .none
  | "true" => some (.bool true)
  | "false" => some (.bool false)
  | _ =>
    if word.all fun c => c.isDigit || c = '-' then (Decimal.readInt word).toOption.map .int
    else (Decimal.readFloat? word).map .float

def readWord (cs : List Char) : Option (Value × List Char) :=
  (wordValue (String.ofList (cs.takeWhile isWordPart))).map (·, cs.dropWhile isWordPart)

mutual

/-- A value; `fuel` bounds the number of characters. -/
def readValue : Nat → List Char → Option (Value × List Char)
  | 0, _ => none
  | fuel + 1, cs =>
    match dropSpaces cs with
    | '"' :: rest => (readText none [] rest).map fun r => (.str r.1, r.2)
    | '[' :: rest =>
      match dropSpaces rest with
      | ']' :: rest => some (.list [], rest)
      | rest => readItems fuel [] rest
    | '\x7b' :: rest =>
      match dropSpaces rest with
      | '\x7d' :: rest => some (.mapping [], rest)
      | rest => readMembers fuel {} rest
    | cs => readWord cs

/-- The members of a list, up to its end. -/
def readItems : Nat → List Value → List Char → Option (Value × List Char)
  | 0, _, _ => none
  | fuel + 1, sofar, cs =>
    match readValue fuel cs with
    | none => none
    | some (v, rest) =>
      match dropSpaces rest with
      | ',' :: rest => readItems fuel (v :: sofar) rest
      | ']' :: rest => some (.list (v :: sofar).reverse, rest)
      | _ => none

/-- The members of an object, up to its end. -/
def readMembers : Nat → OrderedMap String Value → List Char → Option (Value × List Char)
  | 0, _, _ => none
  | fuel + 1, sofar, cs =>
    match dropSpaces cs with
    | '"' :: rest =>
      match readText none [] rest with
      | none => none
      | some (name, rest) =>
        match dropSpaces rest with
        | ':' :: rest =>
          match readValue fuel rest with
          | none => none
          | some (v, rest) =>
            match dropSpaces rest with
            | ',' :: rest => readMembers fuel (sofar.insert name v) rest
            | '\x7d' :: rest => some (.record (sofar.insert name v).entries, rest)
            | _ => none
        | _ => none
    | _ => none

end

/-- The value that a text writes, blanks around it left out. -/
def read (s : String) : Option Value :=
  let cs := s.toList
  match readValue (2 * cs.length + 2) cs with
  | some (v, rest) => if (dropSpaces rest).isEmpty then some v else none
  | none => none

/-- A text whose characters need no escape reads up to its closing quote. -/
theorem readText_bare {cs : List Char} (h : ∀ c ∈ cs, c ≠ '"' ∧ c ≠ '\\') (sofar rest : List Char) :
    readText none sofar (cs ++ '"' :: rest) = some (String.ofList (sofar.reverse ++ cs), rest) := by
  induction cs generalizing sofar with
  | nil => simp [readText]
  | cons c cs ih =>
    obtain ⟨quote, slash⟩ := h c (by simp)
    rw [List.cons_append, readText.eq_5 _ _ _ _ (by simpa using quote) (by simp [slash])
      (by simp [slash]), ih fun c hc => h c (by simp [hc])]
    simp

end StorageMetrics.Text.Json
