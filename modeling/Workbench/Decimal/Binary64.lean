import Workbench.Decimal.Power

namespace Workbench

/-!
# Binary floating point in 64 bits

Numbers of the form `significand * 2 ^ exponent` with 53 bits of significand, the two infinities
and the value that is no number.  Rounding goes to the nearest such number, a tie to the one with
the even significand, and is computed on a quotient of natural numbers, so it is exact.
-/

/-- A value of the 64-bit binary format. -/
inductive Binary64 where
  /-- A finite value.  The significand is below 2^53, and at least 2^52 unless the exponent is the
  least one, -1074. -/
  | finite (negative : Bool) (significand : Nat) (exponent : Int)
  | infinite (negative : Bool)
  | notANumber
  deriving DecidableEq, Repr

namespace Binary64

/-- The exponent of the smallest steps. -/
def leastExponent : Int := -1074

/-- The exponent of the largest steps. -/
def greatestExponent : Int := 971

def zero (negative : Bool) : Binary64 :=
  .finite negative 0 leastExponent

def bitLength (n : Nat) : Nat :=
  if n = 0 then 0 else n.log2 + 1

/-- The quotient divided by a power of two, as numerator and denominator. -/
def scaled (num den : Nat) (exponent : Int) : Nat × Nat :=
  if 0 ≤ exponent then (num, den * twoTo exponent.toNat) else (num * twoTo (-exponent).toNat, den)

/-- The integer nearest to a quotient, a tie going to the even one. -/
def nearestEven (num den : Nat) : Nat :=
  let below := num / den
  let twice := 2 * (num % den)
  if twice < den then below
  else if den < twice then below + 1
  else below + below % 2

/-- The value nearest to `num / den`. -/
def ofQuotient (negative : Bool) (num den : Nat) : Binary64 :=
  if num = 0 then zero negative
  else
    let guess : Int := max (bitLength num - bitLength den - 53 : Int) leastExponent
    let (scaledNum, scaledDen) := scaled num den guess
    let exponent := if twoTo 53 ≤ scaledNum / scaledDen then guess + 1 else guess
    let (finalNum, finalDen) := scaled num den exponent
    let significand := nearestEven finalNum finalDen
    let (significand, exponent) :=
      if significand = twoTo 53 then (twoTo 52, exponent + 1) else (significand, exponent)
    if greatestExponent < exponent then .infinite negative
    else .finite negative significand exponent

/-- The value nearest to `digits * 10 ^ exponent`. -/
def ofDecimal (negative : Bool) (digits : Nat) (exponent : Int) : Binary64 :=
  if 0 ≤ exponent then ofQuotient negative (digits * tenTo exponent.toNat) 1
  else ofQuotient negative digits (tenTo (-exponent).toNat)

/-- The magnitude of a finite value as a quotient. -/
def quotient (significand : Nat) (exponent : Int) : Nat × Nat :=
  if 0 ≤ exponent then (significand * twoTo exponent.toNat, 1)
  else (significand, twoTo (-exponent).toNat)

def isZero : Binary64 → Bool
  | .finite _ significand _ => significand == 0
  | _ => false

/-- The product of two values of which neither is negative, rounded once. -/
def times (negative : Bool) : Binary64 → Binary64 → Binary64
  | .finite _ m q, .finite _ n r =>
    let (a, b) := quotient m q
    let (c, d) := quotient n r
    ofQuotient negative (a * c) (b * d)
  | .notANumber, _ | _, .notANumber => .notANumber
  | _, _ => .infinite negative

/-- The quotient of two values of which neither is negative and the second is not zero, rounded
once. -/
def dividedBy (negative : Bool) : Binary64 → Binary64 → Binary64
  | .finite _ m q, .finite _ n r =>
    let (a, b) := quotient m q
    let (c, d) := quotient n r
    ofQuotient negative (a * d) (b * c)
  | .finite _ _ _, .infinite _ => zero negative
  | .infinite _, .finite _ _ _ => .infinite negative
  | _, _ => .notANumber

/-- Whether the value is a number other than the infinities. -/
def isFinite : Binary64 → Bool
  | .finite _ _ _ => true
  | _ => false

end Binary64
end Workbench
