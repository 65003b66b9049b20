import StorageMetrics.Decimal.Shortest
import StorageMetrics.Number

/-
  The text of a float: its shortest digits, laid out positionally or with an exponent. One record
  per format holds the decisions; `Layout.plain` writes messages and readings, `Layout.bound`
  writes bucket bounds and `Layout.json` writes JSON numbers.
-/

namespace StorageMetrics.Decimal

structure Layout where
  /-- The least and the greatest exponent of the leading digit that are written positionally. -/
  least : Int
  most : Int
  infinite : String
  negInfinite : String
  nan : String

namespace Layout

/-- Positional from 1e-4 up to 10^16. -/
def plain : Layout := ⟨-4, 15, "inf", "-inf", "nan"⟩

/-- The same digits, with the words that JSON readers take for the three that are no JSON numbers. -/
def json : Layout := ⟨-4, 15, "Infinity", "-Infinity", "NaN"⟩

/-- Bounds pass to the exponent form at a million. -/
def bound : Layout := ⟨-4, 5, "+Inf", "-Inf", "NaN"⟩

/-- Bounds below zero keep the plain form at every size. -/
def negativeBound : Layout := { bound with most := 15 }

end Layout

/-- At least two digits of an exponent, always with a sign. -/
def exponentText (e : Int) : String :=
  let digits := toString e.natAbs
  (if e < 0 then "-" else "+") ++ (if digits.length < 2 then "0" ++ digits else digits)

/-- `d.ddde+xx`; a lone digit has no point. -/
def scientific (digits : List Char) (e : Int) : String :=
  match digits with
  | [] => "0"
  | [d] => String.ofList [d] ++ "e" ++ exponentText e
  | d :: rest => String.ofList (d :: '.' :: rest) ++ "e" ++ exponentText e

/-- The digits around the point, padded with zeros; a whole number keeps `.0`. -/
def positional (digits : List Char) (e : Int) : String :=
  if e < 0 then
    String.ofList ('0' :: '.' :: (List.replicate (-e - 1).toNat '0' ++ digits))
  else
    let whole := (digits ++ List.replicate (e.toNat + 1 - digits.length) '0').take (e.toNat + 1)
    let part := digits.drop (e.toNat + 1)
    String.ofList (whole ++ '.' :: (if part.isEmpty then ['0'] else part))

/-- The text of a positive finite float. -/
def Layout.magnitude (l : Layout) (b : Binary) : String :=
  let d := shortest b
  let digits := Nat.toDigits 10 d.digits
  let e := d.exponent + digits.length - 1
  if l.least ≤ e ∧ e ≤ l.most then positional digits e else scientific digits e

def Layout.text (l : Layout) (x : Float) : String :=
  match Magnitude.ofFloat x with
  | .nan => l.nan
  | .infinite => l.infinite
  | .negInfinite => l.negInfinite
  | .finite _ =>
    let b := Binary.ofFloat x
    let sign := if x.toBits.toNat / Nat.pow 2 63 = 1 then "-" else ""
    if b.mantissa = 0 then sign ++ "0.0" else sign ++ l.magnitude b

/-- The text of a float in messages. -/
def text (x : Float) : String := Layout.plain.text x

/-- The text of a bucket bound. -/
def boundText (x : Float) : String :=
  if x > 0 then Layout.bound.text x else Layout.negativeBound.text x

end StorageMetrics.Decimal
