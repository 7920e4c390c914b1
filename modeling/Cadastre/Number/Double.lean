/-!
Double-precision numbers as exact values: an integer of at most fifty-three bits times a power of
two. Arithmetic computes the exact result and rounds it once, to the nearest double and in a tie
to the one with the even significand.
-/

namespace Cadastre

/-- The number `significand * 2 ^ exponent`, negated if `negative`. The zeros have a sign too. -/
structure Double where
  negative : Bool
  significand : Nat
  exponent : Int
  deriving DecidableEq, Repr

namespace Double

/-- Significands stay below `2 ^ precision`. -/
def precision : Nat := 53

def leastExponent : Int := -1074

def greatestExponent : Int := 971

def zero (negative : Bool) : Double := ⟨negative, 0, leastExponent⟩

def isZero (x : Double) : Bool := x.significand = 0

def negate (x : Double) : Double := { x with negative := !x.negative }

/-- The integer nearest to `numerator / denominator`, the even one of two. -/
def nearest (numerator denominator : Nat) : Nat :=
  let quotient := numerator / denominator
  let twice := 2 * (numerator % denominator)
  if twice < denominator then quotient
  else if denominator < twice then quotient + 1
  else quotient + quotient % 2

/-- The fraction in units of `2 ^ exponent`, as a fraction. -/
def inUnits (numerator denominator : Nat) (exponent : Int) : Nat × Nat :=
  if 0 ≤ exponent then (numerator, denominator * Nat.pow 2 exponent.toNat)
  else (numerator * Nat.pow 2 (-exponent).toNat, denominator)

/-- The exponent at which the fraction's integral part has `precision` bits, or the least one. -/
def exponentFor (numerator denominator : Nat) : Int :=
  let guess : Int := (numerator.log2 : Int) - denominator.log2 - (precision - 1)
  let (top, bottom) := inUnits numerator denominator guess
  max leastExponent (if top / bottom < Nat.pow 2 (precision - 1) then guess - 1 else guess)

/-- The double nearest to the fraction, or none if it is too large for any. -/
def ofFraction? (negative : Bool) (numerator denominator : Nat) : Option Double :=
  if numerator = 0 then some (zero negative)
  else
    let exponent := exponentFor numerator denominator
    let (top, bottom) := inUnits numerator denominator exponent
    let rounded := nearest top bottom
    let (significand, exponent) :=
      if rounded = Nat.pow 2 precision then (Nat.pow 2 (precision - 1), exponent + 1)
      else (rounded, exponent)
    if significand = 0 then some (zero negative)
    else if exponent ≤ greatestExponent then some ⟨negative, significand, exponent⟩
    else none

/-- The double nearest to a number below `2 ^ 64`. -/
def ofNat (n : Nat) : Double :=
  (ofFraction? false n 1).getD (zero false)

def fraction (x : Double) : Nat × Nat :=
  if 0 ≤ x.exponent then (x.significand * Nat.pow 2 x.exponent.toNat, 1)
  else (x.significand, Nat.pow 2 (-x.exponent).toNat)

def mul? (x y : Double) : Option Double :=
  let (a, b) := x.fraction
  let (c, d) := y.fraction
  ofFraction? (x.negative != y.negative) (a * c) (b * d)

/-- The quotient; `y` is not to be zero. -/
def div? (x y : Double) : Option Double :=
  let (a, b) := x.fraction
  let (c, d) := y.fraction
  ofFraction? (x.negative != y.negative) (a * d) (b * c)

def powerOfTen (exponent : Nat) : Double :=
  (ofFraction? false (Nat.pow 10 exponent) 1).getD (zero false)

def greatestPower : Nat := 308

/-- Divides by the greatest power `count` times, rounding each time. -/
def shrinkWhole : Nat → Double → Option Double
  | 0, x => some x
  | count + 1, x => (x.div? (powerOfTen greatestPower)).bind (shrinkWhole count)

/-- `x` divided by a power of ten, by steps of at most the greatest power, each rounded. Three
whole steps bring every double to zero, so that no more are taken. -/
def shrink (x : Double) (exponent : Nat) : Option Double :=
  let whole := min ((exponent - 1) / greatestPower) 3
  (shrinkWhole whole x).bind fun y =>
    y.div? (powerOfTen (min greatestPower (exponent - greatestPower * whole)))

/-- `x` times a power of ten, rounded at each step; none if that is too large. -/
def scale (x : Double) (exponent : Int) : Option Double :=
  if 0 ≤ exponent then
    if exponent ≤ greatestPower then x.mul? (powerOfTen exponent.toNat)
    else if x.isZero then some x
    else none
  else shrink x (-exponent).toNat

def IsNormal (x : Double) : Prop :=
  x.significand < Nat.pow 2 precision ∧ leastExponent ≤ x.exponent ∧
    x.exponent ≤ greatestExponent ∧
    (x.exponent = leastExponent ∨ Nat.pow 2 (precision - 1) ≤ x.significand)

instance (x : Double) : Decidable x.IsNormal :=
  inferInstanceAs (Decidable (_ ∧ _ ∧ _ ∧ (_ ∨ _)))

example : (ofFraction? false 1 10) = some ⟨false, 7205759403792794, -56⟩ := by decide +kernel

example : (ofFraction? false (2 ^ 1024) 1) = none := by decide +kernel

end Double

end Cadastre
