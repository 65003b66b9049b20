import StorageMetrics.Decimal.Shortest

/-
  Decimals of a chosen length: a positive float rounded to a number of places, or to a number of
  significant digits. The float is taken exactly and a tie goes to the even neighbour.
-/

namespace StorageMetrics.Decimal

/-- A quotient rounded to the nearest whole number, a tie to the even one. -/
def roundDiv (num den : Nat) : Nat :=
  let q := num / den
  let twice := 2 * (num % den)
  if twice < den then q
  else if den < twice then q + 1
  else if q % 2 = 0 then q else q + 1

/-- The float in units of `10^-s`, rounded. -/
def Binary.roundedAt (b : Binary) (s : Int) : Nat :=
  let g := b.grid s
  if g.step = 0 then 0 else roundDiv g.value g.step

/-- The digits of a number, at least `width` of them. -/
def paddedDigits (width n : Nat) : List Char :=
  let ds := Nat.toDigits 10 n
  List.replicate (width - ds.length) '0' ++ ds

/-- No double has a digit other than zero after so many places. -/
def placeLimit : Nat := 1074

/-- With `places` digits after the point; zeros only after the last place that can hold another. -/
def Binary.fixed (b : Binary) (places : Nat) : List Char :=
  let exact := min places placeLimit
  let ds := paddedDigits (exact + 1) (b.roundedAt exact)
  let whole := ds.take (ds.length - exact)
  let part := ds.drop (ds.length - exact)
  whole ++ (if places = 0 then [] else '.' :: part ++ List.replicate (places - exact) '0')

/-- `count` significant digits and the exponent of the first. -/
def Binary.significant (b : Binary) (count : Nat) : List Char × Int :=
  if b.mantissa = 0 then (List.replicate count '0', 0)
  else
    let e := b.leading
    let n := b.roundedAt (count - 1 - e)
    if n = Nat.pow 10 count then (Nat.toDigits 10 (Nat.pow 10 (count - 1)), e + 1)
    else (Nat.toDigits 10 n, e)

end StorageMetrics.Decimal
