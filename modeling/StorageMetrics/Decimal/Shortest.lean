/-
  The shortest decimal of a float: the fewest digits that read back as the same float, and of
  those digits the nearest to it. All arithmetic is exact on natural numbers: the float, the ends
  of the interval of reals that round to it and each candidate are compared over one denominator.
-/

namespace StorageMetrics.Decimal

/-- A positive finite float is `mantissa * 2^power`; `mantissa < 2^53`. -/
structure Binary where
  mantissa : Nat
  power : Int
deriving DecidableEq

/-- `digits * 10^exponent`. -/
structure Scaled where
  digits : Nat
  exponent : Int
deriving DecidableEq

/-- Mantissa and power of the absolute value, read off the bits of a finite float. -/
def Binary.ofFloat (x : Float) : Binary :=
  let bits : Nat := x.toBits.toNat
  let exponent : Nat := bits / Nat.pow 2 52 % 2048
  let fraction : Nat := bits % Nat.pow 2 52
  if exponent = 0 then ⟨fraction, -1074⟩ else ⟨Nat.pow 2 52 + fraction, (exponent : Int) - 1075⟩

/-- A positive ratio of natural numbers. -/
structure Ratio where
  num : Nat
  den : Nat

/-- A quarter of the last binary place, in which the float and the ends of its interval are whole. -/
def Binary.quarter (b : Binary) : Ratio :=
  if 2 ≤ b.power then ⟨Nat.pow 2 (b.power - 2).toNat, 1⟩ else ⟨1, Nat.pow 2 (2 - b.power).toNat⟩

/-- Below a power of two the floats lie twice as dense, so the interval reaches half as far down. -/
def Binary.quartersBelow (b : Binary) : Nat :=
  if b.mantissa = Nat.pow 2 52 ∧ -1074 < b.power then 1 else 2

/-- The exponent of the leading digit: `10^e ≤ m * 2^p < 10^(e+1)`. -/
def Binary.leading (b : Binary) : Int :=
  let u := b.quarter
  let scaled := 4 * b.mantissa * u.num * Nat.pow 10 400 / u.den
  ((Nat.toDigits 10 scaled).length : Int) - 401

/-- The float, the ends of its interval and the grid of step `10^-s`, over one denominator: the
point `c` of the grid is `c * step`. -/
structure Grid where
  low : Nat
  value : Nat
  high : Nat
  step : Nat
  /-- The ends of the interval round to the float: its mantissa is even. -/
  closed : Bool

def Binary.grid (b : Binary) (s : Int) : Grid :=
  let u := b.quarter
  let up := Nat.pow 10 s.toNat
  let down := Nat.pow 10 (-s).toNat
  let scale := u.num * up
  { low := (4 * b.mantissa - b.quartersBelow) * scale
    value := 4 * b.mantissa * scale
    high := (4 * b.mantissa + 2) * scale
    step := u.den * down
    closed := b.mantissa % 2 = 0 }

namespace Grid

/-- The point reads back as the float. -/
def fits (g : Grid) (c : Nat) : Bool :=
  if g.closed then g.low ≤ c * g.step && c * g.step ≤ g.high
  else g.low < c * g.step && c * g.step < g.high

/-- Of the two neighbours of the float on the grid, the one that fits; of two, the nearer, and of
two equally near the even one. -/
def nearest? (g : Grid) : Option Nat :=
  let c := g.value / g.step
  let below := g.value - c * g.step
  let above := (c + 1) * g.step - g.value
  match g.fits c, g.fits (c + 1) with
  | true, true =>
    if below < above then some c
    else if above < below then some (c + 1)
    else if c % 2 = 0 then some c else some (c + 1)
  | true, false => some c
  | false, true => some (c + 1)
  | false, false => none

end Grid

/-- Leaves out zeros at the end; `fuel` bounds their number. -/
def trimZeros : Nat → Scaled → Scaled
  | 0, d => d
  | fuel + 1, d =>
    if d.digits % 10 = 0 ∧ d.digits ≠ 0 then trimZeros fuel ⟨d.digits / 10, d.exponent + 1⟩ else d

/-- The first of the grids of 1, 2, … 17 digits that holds a point of the interval decides. -/
def shortest (b : Binary) : Scaled :=
  let e := b.leading
  let hit := (List.range 17).findSome? fun (n : Nat) =>
    let s : Int := n - e
    ((b.grid s).nearest?).map fun c => (⟨c, -s⟩ : Scaled)
  trimZeros 17 (hit.getD ⟨0, 0⟩)

end StorageMetrics.Decimal
