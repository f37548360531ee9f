import TaxonomyQuery.Decimal.Shortest
import TaxonomyQuery.Text.Numeral
/-!
Numbers of a document: whole numbers of 64 bits, and doubles for all else.
-/

set_option autoImplicit false

namespace TaxonomyQuery

inductive Number where
  | integer (value : Int)
  | real (value : Double)
deriving DecidableEq, Repr

namespace Number

/-- The parts of a number as they are written. The fraction holds the digits after the point. -/
structure Literal where
  negative : Bool
  whole : List Char
  fraction : List Char
  exponent : Option (Bool × List Char)
deriving DecidableEq, Repr

/-- Takes digits into `value` while it stays within 64 bits; the rest is left over. -/
def takeDigits (value : Nat) : List Char → Nat × List Char
  | [] => (value, [])
  | c :: rest =>
    let next := value * 10 + Text.digitValue c
    if next ≤ Text.greatestNatural then takeDigits next rest else (value, c :: rest)

/-- A power of ten past every finite double, in either direction. -/
def farExponent : Nat := 2147483647

/-- The digits of the exponent as a number, or nothing where it is past `farExponent`. -/
def exponentValue? (digits : List Char) : Option Nat :=
  (Text.readDigits farExponent 0 digits).toOption

/-- The double of a literal. Digits past the 64 bits of the significand count as zeros before the
point and not at all behind it. -/
def Literal.double? (literal : Literal) : Option Double :=
  let (start, dropped) := takeDigits 0 literal.whole
  let (significand, unread) := takeDigits start literal.fraction
  let places : Int := dropped.length - ((literal.fraction.length : Int) - unread.length)
  match literal.exponent with
  | none => Double.scaled? literal.negative significand places
  | some (down, digits) =>
    match exponentValue? digits with
    | some shift =>
      Double.scaled? literal.negative significand (if down then places - shift else places + shift)
    | none =>
      if down ∨ significand = 0 then some (Double.zero literal.negative) else none

/-- The number of a literal, or nothing where it is too large. Without point and exponent it is
whole as long as 64 bits hold it, the negative zero apart. -/
def ofLiteral? (literal : Literal) : Option Number :=
  let whole := takeDigits 0 literal.whole
  let isWhole := literal.fraction.isEmpty && literal.exponent.isNone && whole.2.isEmpty
  if isWhole && !literal.negative then
    some (.integer whole.1)
  else if isWhole && 0 < whole.1 && whole.1 ≤ Text.greatestInteger + 1 then
    some (.integer (-(whole.1 : Int)))
  else
    literal.double?.map .real

/-- The text of a positive decimal: in full while its leading digit stands no further than fifteen
places before the unit or five behind it, else with an exponent. -/
def decimalText (digits : Nat) (exponent : Int) : List Char :=
  let shown := Text.decimalNat digits
  let leading : Int := exponent + shown.length - 1
  if 0 ≤ exponent ∧ leading ≤ 15 then
    shown ++ List.replicate exponent.toNat '0' ++ ['.', '0']
  else if 0 ≤ leading ∧ leading ≤ 15 then
    shown.take (leading.toNat + 1) ++ '.' :: shown.drop (leading.toNat + 1)
  else if -5 ≤ leading ∧ leading < 0 then
    ['0', '.'] ++ List.replicate (-leading - 1).toNat '0' ++ shown
  else
    shown.take 1 ++ (if shown.length = 1 then [] else '.' :: shown.drop 1) ++
      ['e', if leading < 0 then '-' else '+'] ++ Text.decimalNat leading.natAbs

def doubleText (value : Double) : List Char :=
  let unsigned :=
    if value.mantissa = 0 then ['0', '.', '0']
    else decimalText value.shortest.1 value.shortest.2
  if value.negative then '-' :: unsigned else unsigned

def text : Number → List Char
  | .integer value => Text.decimal value
  | .real value => doubleText value

end Number

end TaxonomyQuery
