/-!
Double precision numbers as whole multiples of `2 ^ -1074`, the spacing of the smallest ones.
Comparison is comparison of the multiples, and rounding is exact integer arithmetic.
-/

namespace Restatement

def twoTo (exponent : Nat) : Nat := Nat.pow 2 exponent

def tenTo (exponent : Nat) : Nat := Nat.pow 10 exponent

/-- The quotient rounded to the nearest integer, a half to the even neighbour. -/
def roundHalfEven (numerator denominator : Nat) : Nat :=
  let quotient := numerator / denominator
  let remainder := numerator % denominator
  if 2 * remainder < denominator then quotient
  else if denominator < 2 * remainder then quotient + 1
  else if quotient % 2 = 0 then quotient
  else quotient + 1

structure Binary64 where
  units : Int
  deriving DecidableEq, Repr

namespace Binary64

def one : Nat := twoTo 1074

/-- How many low bits of a magnitude lie beyond the 53 that are kept. -/
def excessBits (magnitude : Nat) : Nat := magnitude.log2 + 1 - 53

def ofUnits (numerator : Int) (denominator : Nat) : Binary64 :=
  let size := numerator.natAbs
  let spacing := twoTo (excessBits (size / denominator))
  ⟨numerator.sign * (roundHalfEven size (denominator * spacing) * spacing : Nat)⟩

def quotient (numerator : Int) (denominator : Nat) : Binary64 :=
  ofUnits (numerator * one) denominator

def ofInt (n : Int) : Binary64 := quotient n 1

def ofDecimal (digits : Int) (exponent : Int) : Binary64 :=
  if 0 ≤ exponent then quotient (digits * tenTo exponent.toNat) 1
  else quotient digits (tenTo (-exponent).toNat)

def atMost (x y : Binary64) : Bool := x.units ≤ y.units

def scale (n : Nat) (x : Binary64) : Binary64 := ofUnits (n * x.units) 1

def isIntegral (x : Binary64) : Bool := x.units % one == 0

def toInt (x : Binary64) : Int := x.units.tdiv one

end Binary64

end Restatement
