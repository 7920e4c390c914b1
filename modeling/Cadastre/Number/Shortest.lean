import Cadastre.Number.Double

/-!
Doubles as decimal text. The digits are the fewest that still lie among the numbers that round to
the double; of those with equally few digits, the nearest to it. They are written positionally
from `0.00001` up to below `10 ^ 16` and with a signed exponent beyond.
-/

namespace Cadastre.Double

/-- The digits of `value` and the power of ten of the last one. -/
structure Decimal where
  value : Nat
  exponent : Int
  deriving DecidableEq, Repr

/-- The numbers that round to a positive double, as multiples of a quarter of its unit:
their bounds, the double itself, and whether the bounds belong to them. -/
structure Neighbourhood where
  low : Nat
  centre : Nat
  high : Nat
  closed : Bool

/-- Below a power of two the doubles lie half as far apart as above it. -/
def neighbourhood (x : Double) : Neighbourhood :=
  let centre := 4 * x.significand
  let narrow := x.significand = Nat.pow 2 (precision - 1) ∧ x.exponent ≠ leastExponent
  ⟨if narrow then centre - 1 else centre - 2, centre, centre + 2, x.significand % 2 = 0⟩

/-- `a / b ≤ c / d`, strictly unless `closed`. -/
def below (closed : Bool) (a b c d : Nat) : Bool :=
  if closed then a * d ≤ c * b else a * d < c * b

def Decimal.fraction (d : Decimal) : Nat × Nat :=
  if 0 ≤ d.exponent then (d.value * Nat.pow 10 d.exponent.toNat, 1)
  else (d.value, Nat.pow 10 (-d.exponent).toNat)

/-- A multiple of a quarter of the unit of `x`, as a fraction. -/
def quarters (x : Double) (n : Nat) : Nat × Nat :=
  fraction ⟨false, n, x.exponent - 2⟩

def Decimal.roundsTo (d : Decimal) (x : Double) : Bool :=
  let near := x.neighbourhood
  let (a, b) := d.fraction
  let (lowTop, lowBottom) := x.quarters near.low
  let (highTop, highBottom) := x.quarters near.high
  below near.closed lowTop lowBottom a b && below near.closed a b highTop highBottom

/-- The exponent `k` with `10 ^ k ≤ top / bottom < 10 ^ (k + 1)`, for a positive fraction. -/
def decimalExponent (top bottom : Nat) : Int :=
  if bottom ≤ top then ((Nat.toDigits 10 (top / bottom)).length : Int) - 1
  else
    let lead := (Nat.toDigits 10 (bottom / top)).length
    if bottom ≤ top * Nat.pow 10 (lead - 1) then -((lead : Int) - 1) else -(lead : Int)

/-- The two neighbours of `x` on the grid of multiples of `10 ^ exponent`, the nearer one first;
in a tie the even one. -/
def candidates (x : Double) (exponent : Int) : List Decimal :=
  let (top, bottom) := x.fraction
  let (top, bottom) :=
    if 0 ≤ exponent then (top, bottom * Nat.pow 10 exponent.toNat)
    else (top * Nat.pow 10 (-exponent).toNat, bottom)
  let floor := top / bottom
  let twice := 2 * (top % bottom)
  let down : Decimal := ⟨floor, exponent⟩
  let up : Decimal := ⟨floor + 1, exponent⟩
  if twice < bottom ∨ (twice = bottom ∧ floor % 2 = 0) then [down, up] else [up, down]

/-- The decimal with the fewest digits, searched from `digits` digits on and given up after
`fuel` more. -/
def search (x : Double) (magnitude : Int) (digits : Nat) : Nat → Decimal
  | 0 => ⟨0, 0⟩
  | fuel + 1 =>
    match (x.candidates (magnitude - digits + 1)).find? fun d => d.roundsTo x with
    | some found => found
    | none => search x magnitude (digits + 1) fuel

def Decimal.trimZeros (d : Decimal) : Nat → Decimal
  | 0 => d
  | fuel + 1 =>
    if d.value % 10 = 0 ∧ d.value ≠ 0 then trimZeros ⟨d.value / 10, d.exponent + 1⟩ fuel else d

/-- Seventeen digits are always enough. -/
def shortest (x : Double) : Decimal :=
  let (top, bottom) := x.fraction
  (search x (decimalExponent top bottom) 1 17).trimZeros 17

/-- Positional notation serves the magnitudes from `10 ^ -5` to below `10 ^ 16`. -/
def isPositional (magnitude : Int) : Bool := -5 ≤ magnitude && magnitude < 16

def positional (digits : List Char) (exponent : Int) : List Char :=
  if 0 ≤ exponent then digits ++ List.replicate exponent.toNat '0' ++ ['.', '0']
  else
    let places := (-exponent).toNat
    let padded := List.replicate (places + 1 - digits.length) '0' ++ digits
    padded.take (padded.length - places) ++ ['.'] ++ padded.drop (padded.length - places)

def scientific (digits : List Char) (magnitude : Int) : List Char :=
  let mantissa := if digits.length = 1 then digits else digits.take 1 ++ ['.'] ++ digits.drop 1
  mantissa ++ ['e', if 0 ≤ magnitude then '+' else '-'] ++ Nat.toDigits 10 magnitude.natAbs

def text (x : Double) : List Char :=
  let sign := if x.negative then ['-'] else []
  if x.isZero then sign ++ ['0', '.', '0']
  else
    let decimal := x.shortest
    let digits := Nat.toDigits 10 decimal.value
    let magnitude := decimal.exponent + digits.length - 1
    sign ++
      if isPositional magnitude then positional digits decimal.exponent
      else scientific digits magnitude

example : (ofNat 1000).text = "1000.0".toList := by decide +kernel

example : ((ofFraction? false (2 ^ 64) 1).map text) = some "1.8446744073709552e+19".toList := by
  decide +kernel

end Cadastre.Double
