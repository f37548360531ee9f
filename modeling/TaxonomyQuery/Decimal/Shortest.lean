import TaxonomyQuery.Decimal.Double
/-!
The shortest decimal text that reads back as a given double. Among the decimals with that few
digits the one nearest to the double is taken.
-/

set_option autoImplicit false

namespace TaxonomyQuery.Double

/-- The quotients that bound the reals nearer to the number than to any other double. -/
def interval (number : Double) : (Nat × Nat) × (Nat × Nat) :=
  let below :=
    if number.mantissa = leastNormal ∧ leastExponent < number.exponent then 1 else 2
  let scale (quarters : Nat) :=
    (quarters * twoTo number.exponent, 4 * twoTo (-number.exponent))
  (scale (4 * number.mantissa - below), scale (4 * number.mantissa + 2))

/-- Whether `digits * 10 ^ exponent` rounds to the number. -/
def isNearest (number : Double) (digits : Nat) (exponent : Int) : Bool :=
  let bounds := number.interval
  let top := digits * tenTo exponent
  let bottom := tenTo (-exponent)
  let low := bounds.1.1 * bottom
  let middleLow := top * bounds.1.2
  let high := bounds.2.1 * bottom
  let middleHigh := top * bounds.2.2
  if number.mantissa % 2 = 0 then low ≤ middleLow && middleHigh ≤ high
  else low < middleLow && middleHigh < high

/-- The largest `exponent` with `10 ^ exponent ≤ numerator / denominator`, for a positive
quotient. -/
def decimalExponent (numerator denominator : Nat) : Int :=
  if denominator ≤ numerator then
    ((Nat.toDigits 10 (numerator / denominator)).length : Int) - 1
  else
    let places := ((Nat.toDigits 10 (denominator / numerator)).length : Int)
    if numerator * tenTo (places - 1) < denominator then -places else 1 - places

/-- The neighbours of the magnitude on the grid of multiples of `10 ^ exponent`, the nearer one
first. -/
def neighbours (number : Double) (exponent : Int) : List Nat :=
  let top := number.magnitude.1 * tenTo (-exponent)
  let bottom := number.magnitude.2 * tenTo exponent
  let lower := top / bottom
  let twice := 2 * (top % bottom)
  if twice < bottom ∨ (twice = bottom ∧ lower % 2 = 0) then [lower, lower + 1]
  else [lower + 1, lower]

/-- Tries grids of one digit, two digits and so on, up to `left` more. -/
def shortestFrom (number : Double) : Nat → Int → Nat × Int
  | 0, exponent => ((number.neighbours exponent).headD 0, exponent)
  | left + 1, exponent =>
    match (number.neighbours exponent).find? (number.isNearest · exponent) with
    | some digits => (digits, exponent)
    | none => shortestFrom number left (exponent - 1)

/-- Drops trailing zeros of the digits, at most `count`. -/
def dropZeros : Nat → Nat × Int → Nat × Int
  | 0, decimal => decimal
  | count + 1, (digits, exponent) =>
    if digits ≠ 0 ∧ digits % 10 = 0 then dropZeros count (digits / 10, exponent + 1)
    else (digits, exponent)

/-- Digits and exponent of the shortest decimal. -/
def shortest (number : Double) : Nat × Int :=
  if number.mantissa = 0 then (0, 0)
  else
    dropZeros 17 <| number.shortestFrom 16 <|
      decimalExponent number.magnitude.1 number.magnitude.2

end TaxonomyQuery.Double
