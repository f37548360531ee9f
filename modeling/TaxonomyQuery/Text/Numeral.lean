/-!
Whole numbers written in decimal digits, read within a bound and written back.
-/

set_option autoImplicit false

namespace TaxonomyQuery.Text

/-- Why a text is not the numeral of a number within the bound. -/
inductive NumeralFault where
  | empty
  | invalidDigit
  | tooLarge
deriving DecidableEq, Repr

def NumeralFault.message : NumeralFault → String
  | .empty => "cannot parse integer from empty string"
  | .invalidDigit => "invalid digit found in string"
  | .tooLarge => "number too large to fit in target type"

def digitValue (c : Char) : Nat := c.toNat - '0'.toNat

/-- Reads on from `value`; the first character that is no digit, or that takes the value past
`bound`, is the fault. -/
def readDigits (bound : Nat) : Nat → List Char → Except NumeralFault Nat
  | value, [] => .ok value
  | value, c :: rest =>
    if c.isDigit then
      if value * 10 + digitValue c ≤ bound then
        readDigits bound (value * 10 + digitValue c) rest
      else
        .error .tooLarge
    else
      .error .invalidDigit

/-- A number up to `bound`: at least one digit, with or without a plus sign in front. -/
def readNatural (bound : Nat) : List Char → Except NumeralFault Nat
  | [] => .error .empty
  | ['+'] => .error .invalidDigit
  | '+' :: digits => readDigits bound 0 digits
  | digits => readDigits bound 0 digits

/-- The bound of numbers of 64 bits without a sign. -/
def greatestNatural : Nat := 18446744073709551615

/-- The bound of numbers of 64 bits with a sign. Negative ones go one further. -/
def greatestInteger : Nat := 9223372036854775807

/-- A number of 64 bits with or without a sign: at least one digit, or nothing is read. -/
def readInt64? : List Char → Option Int64
  | [] => none
  | ['+'] => none
  | ['-'] => none
  | '-' :: digits =>
    match readDigits (greatestInteger + 1) 0 digits with
    | .ok value => some (Int64.ofInt (-(value : Int)))
    | .error _ => none
  | '+' :: digits =>
    match readDigits greatestInteger 0 digits with
    | .ok value => some (Int64.ofInt value)
    | .error _ => none
  | digits =>
    match readDigits greatestInteger 0 digits with
    | .ok value => some (Int64.ofInt value)
    | .error _ => none

def decimalNat (value : Nat) : List Char := Nat.toDigits 10 value

def decimal (value : Int) : List Char :=
  if value < 0 then '-' :: decimalNat value.natAbs else decimalNat value.natAbs

@[simp] theorem readDigits_nil (bound value : Nat) : readDigits bound value [] = .ok value := rfl

end TaxonomyQuery.Text
