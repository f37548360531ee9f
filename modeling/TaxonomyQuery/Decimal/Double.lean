/-!
Finite binary numbers of double precision as exact values, and the rounding of quotients to the
nearest of them.
-/

set_option autoImplicit false

namespace TaxonomyQuery

/-- The number `mantissa * 2 ^ exponent`, or its negation. -/
structure Double where
  negative : Bool
  mantissa : Nat
  exponent : Int
deriving DecidableEq, Repr

namespace Double

/-- One more than the greatest mantissa. -/
def mantissaBound : Nat := 9007199254740992

/-- The least mantissa of a number whose exponent is not the least. -/
def leastNormal : Nat := 4503599627370496

/-- A power of two, or one where the exponent is negative. -/
def twoTo (exponent : Int) : Nat := Nat.pow 2 exponent.toNat

/-- A power of ten, or one where the exponent is negative. -/
def tenTo (exponent : Int) : Nat := Nat.pow 10 exponent.toNat

def leastExponent : Int := -1074

def greatestExponent : Int := 971

def zero (negative : Bool) : Double := ⟨negative, 0, leastExponent⟩

/-- The quotient `numerator / denominator` in units of `2 ^ exponent`, as a quotient again. -/
def inUnits (numerator denominator : Nat) (exponent : Int) : Nat × Nat :=
  (numerator * twoTo (-exponent), denominator * twoTo exponent)

/-- The exponent of the double nearest to a positive quotient: the least that leaves no more than
53 binary digits before the point. -/
def exponentOf (numerator denominator : Nat) : Int :=
  let lower := max ((numerator.log2 : Int) - denominator.log2 - 53) leastExponent
  let scaled := inUnits numerator denominator lower
  if scaled.1 / scaled.2 < mantissaBound then lower else lower + 1

/-- The quotient rounded to a whole number, a tie to the even one. -/
def roundHalfEven (numerator denominator : Nat) : Nat :=
  let quotient := numerator / denominator
  let twice := 2 * (numerator % denominator)
  if twice < denominator ∨ (twice = denominator ∧ quotient % 2 = 0) then quotient
  else quotient + 1

/-- The double nearest to `numerator / denominator`, a tie going to the even mantissa, or nothing
where it is too large. -/
def round? (negative : Bool) (numerator denominator : Nat) : Option Double :=
  if numerator = 0 then some (zero negative)
  else
    let exponent := exponentOf numerator denominator
    let scaled := inUnits numerator denominator exponent
    let mantissa := roundHalfEven scaled.1 scaled.2
    let carried := mantissa = mantissaBound
    let exponent := if carried then exponent + 1 else exponent
    if greatestExponent < exponent then none
    else some ⟨negative, if carried then leastNormal else mantissa, exponent⟩

/-- The magnitude as a quotient. -/
def magnitude (number : Double) : Nat × Nat :=
  (number.mantissa * twoTo number.exponent, twoTo (-number.exponent))

def ofNat? (value : Nat) : Option Double := round? false value 1

def mul? (first second : Double) : Option Double :=
  round? (first.negative != second.negative) (first.magnitude.1 * second.magnitude.1)
    (first.magnitude.2 * second.magnitude.2)

def div? (first second : Double) : Option Double :=
  round? (first.negative != second.negative) (first.magnitude.1 * second.magnitude.2)
    (first.magnitude.2 * second.magnitude.1)

/-- The double nearest to a power of ten. -/
def powerOfTen? (exponent : Nat) : Option Double := ofNat? (tenTo exponent)

def greatestPower : Nat := 308

/-- Divides by the greatest power of ten, so many times or until nothing is left. -/
def shrink : Nat → Double → Option Double
  | 0, number => some number
  | count + 1, number =>
    if number.mantissa = 0 then some number
    else do
      let power ← powerOfTen? greatestPower
      let smaller ← number.div? power
      shrink count smaller

/-- The value of `significand * 10 ^ exponent` by way of doubles: the significand is rounded first,
then multiplied or divided by a rounded power of ten. Nothing where the result is too large. -/
def scaled? (negative : Bool) (significand : Nat) (exponent : Int) : Option Double := do
  let start ← ofNat? significand
  let result ←
    if 0 ≤ exponent then
      if exponent.toNat ≤ greatestPower then do
        let power ← powerOfTen? exponent.toNat
        start.mul? power
      else if significand = 0 then some start
      else none
    else do
      let count := (exponent.natAbs - 1) / greatestPower
      let smaller ← shrink count start
      let power ← powerOfTen? (exponent.natAbs - count * greatestPower)
      smaller.div? power
  some { result with negative := negative }

end Double

end TaxonomyQuery
