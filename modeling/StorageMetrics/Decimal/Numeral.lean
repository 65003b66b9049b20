import StorageMetrics.Number
import StorageMetrics.Text.Blank
import StorageMetrics.Text.Digit
import StorageMetrics.Text.Quoted

/-
  Numerals: the texts that read as an integer or as a float. Blanks may surround a numeral, digits
  may come from any script, and one underscore may stand between two digits. A float also has a
  point, an exponent, or is one of the words inf, infinity and nan.
-/

namespace StorageMetrics.Decimal

open StorageMetrics.Text

/-- Blanks beyond ASCII become spaces and digits beyond ASCII become ASCII digits; any other
character beyond ASCII belongs to no numeral. -/
def plainChar (c : Char) : Char :=
  if c.toNat < 127 then c
  else if isBlank c then ' '
  else match digitValue? c with
    | some d => Char.ofNat (48 + d)
    | none => '?'

/-- The blanks of ASCII that may surround a numeral; the field separators are not among them. -/
def isSurround (c : Char) : Bool := c = ' ' || (9 ≤ c.toNat && c.toNat ≤ 13)

/-- The numeral without its surrounding blanks, in ASCII. -/
def bare (s : String) : List Char :=
  let cs := (s.toList.map plainChar).dropWhile isSurround
  (cs.reverse.dropWhile isSurround).reverse

def asciiDigit? (c : Char) : Option Nat :=
  if 48 ≤ c.toNat ∧ c.toNat ≤ 57 then some (c.toNat - 48) else none

def startsWithDigit : List Char → Bool
  | c :: _ => (asciiDigit? c).isSome
  | [] => false

/-- The digits up to the first character that continues no run of digits; an underscore continues
the run when a digit follows it. -/
def digitRun : List Char → List Nat × List Char
  | [] => ([], [])
  | c :: rest =>
    match asciiDigit? c with
    | some d => let r := digitRun rest; (d :: r.1, r.2)
    | none => if c = '_' && startsWithDigit rest then digitRun rest else ([], c :: rest)

/-- A run of digits begins with a digit. -/
def digits (cs : List Char) : List Nat × List Char :=
  if startsWithDigit cs then digitRun cs else ([], cs)

/-- An optional sign, and whether it is a minus. -/
def sign : List Char → Bool × List Char
  | '-' :: rest => (true, rest)
  | '+' :: rest => (false, rest)
  | cs => (false, cs)

def ofDigits (ds : List Nat) : Nat := ds.foldl (fun n d => n * 10 + d) 0

/-- Integers with more digits than this are not read. -/
def digitLimit : Nat := 4300

/-- The quoted text of a refused integer is cut after this many characters. -/
def shownLimit : Nat := 200

/-- An integer. Too many digits are refused before what follows them is looked at, unless that is an
underscore. -/
def readInt (s : String) : Except NumberError Int :=
  let refused := NumberError.notAnInteger (String.ofList ((quotedChars s.toList).take shownLimit))
  let (negative, rest) := sign (bare s)
  let (ds, rest) := digits rest
  if ds.isEmpty || rest.head? = some '_' then .error refused
  else if digitLimit < ds.length then .error (.tooManyDigits ds.length)
  else if rest.isEmpty then .ok (if negative then -(ofDigits ds : Int) else ofDigits ds)
  else .error refused

/-- `digits * 10^exponent`, rounded to the nearest float. Exponents far outside the range of the
floats are settled by the position of the leading digit alone. -/
def roundDecimal (ds : List Nat) (exponent : Int) : Float :=
  let ds := ds.dropWhile (· = 0)
  let top : Int := ds.length + exponent
  if ds.isEmpty || top < -400 then 0
  else if 400 < top then 1 / 0
  else if exponent < 0 then Float.ofScientific (ofDigits ds) true exponent.natAbs
  else Float.ofScientific (ofDigits ds) false exponent.natAbs

/-- The exponent part, when there is one. -/
def exponentPart : List Char → Option (Int × List Char)
  | c :: rest =>
    if c = 'e' ∨ c = 'E' then
      let (negative, rest) := sign rest
      match digits rest with
      | ([], _) => none
      | (ds, rest) => some (if negative then -(ofDigits ds : Int) else ofDigits ds, rest)
    else some (0, c :: rest)
  | [] => some (0, [])

/-- The fraction part, when there is one: the digits after a point. -/
def fractionPart : List Char → List Nat × List Char
  | '.' :: rest => digits rest
  | cs => ([], cs)

/-- A float without its sign. -/
def readMagnitude (cs : List Char) : Option Float :=
  match String.ofList (cs.map Char.toLower) with
  | "inf" | "infinity" => some (1 / 0)
  | "nan" => some (0 / 0)
  | _ =>
    let (whole, rest) := digits cs
    let (part, rest) := fractionPart rest
    if whole.isEmpty && part.isEmpty then none
    else match exponentPart rest with
      | some (e, []) => some (roundDecimal (whole ++ part) (e - part.length))
      | _ => none

def readFloat? (s : String) : Option Float :=
  let (negative, rest) := sign (bare s)
  (readMagnitude rest).map fun x => if negative then -x else x

def readFloat (s : String) : Except NumberError Float :=
  match readFloat? s with
  | some x => .ok x
  | none => .error (.notADecimal (quoted s))

end StorageMetrics.Decimal
