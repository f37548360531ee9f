import TaxonomyQuery.Proofs.PrintedText
/-!
How a printed document looks. Every item and every member begins a line, two spaces further in than
the array or object around it, which also ends on a line of its own; and numbers and strings are
spelled on these lines in the usual way.
-/

set_option autoImplicit false

namespace TaxonomyQuery

/-! ### Numerals and quotations -/

/-- The shortest numeral of a number: no plus sign, and no zero in front of another digit. -/
inductive Text.IsNumeral : List Char → Int → Prop where
  | zero : IsNumeral ['0'] 0
  | positive {digits : List Char} {value : Nat} (written : IsDigits digits value)
      (first : digits.head? ≠ some '0') : IsNumeral digits value
  | negative {digits : List Char} {value : Nat} (written : IsDigits digits value)
      (first : digits.head? ≠ some '0') : IsNumeral ('-' :: digits) (-value)

theorem Text.isDigits_decimalNat (value : Nat) : IsDigits (decimalNat value) value where
  nonempty := by
    obtain ⟨c, more, front, _⟩ := Number.exists_decimalNat_eq_cons value
    rw [front]
    exact List.cons_ne_nil c more
  all c member := Nat.isDigit_of_mem_toDigits (by decide) (by decide) member
  value_eq := Nat.ofDigitChars_toDigits (by decide) (by decide)

theorem Text.isNumeral_decimal (value : Int) : IsNumeral (decimal value) value := by
  have first (size : Nat) (nonzero : size ≠ 0) : (decimalNat size).head? ≠ some '0' := by
    obtain ⟨c, more, front, zero⟩ := Number.exists_decimalNat_eq_cons size
    rw [front, List.head?_cons]
    exact fun same => nonzero (zero (Option.some.inj same))
  rw [decimal]
  split
  · rename_i negative
    have written := isDigits_decimalNat value.natAbs
    have signed : -(value.natAbs : Int) = value := by omega
    have numeral := IsNumeral.negative written (first _ (by omega))
    rwa [signed] at numeral
  · rename_i positive
    have unsigned : (value.natAbs : Int) = value := by omega
    by_cases zero : value = 0
    · subst zero
      exact .zero
    · have numeral := IsNumeral.positive (isDigits_decimalNat value.natAbs) (first _ (by omega))
      rwa [unsigned] at numeral

/-- A whole number, of whatever size. -/
def Number.IsInteger : Number → Prop
  | .integer _ => True
  | .real _ => False

/-- The text stands in quotes, and what is read between them is the content. -/
inductive Quoted.IsQuotation : List Char → String → Prop where
  | quoted {body : List Char} {content : String}
      (read : Quoted.scan 0 body = ⟨.ok content.toList, .ok []⟩) :
      IsQuotation ('"' :: body) content

theorem Json.isQuotation_quoted (content : String) :
    Quoted.IsQuotation (quoted content) content := by
  rw [quoted, Quoted.encode]
  exact .quoted (Quoted.scan_flatMap_encodeChar content.toList [])

/-! ### Lines -/

/-- How a part of a document stands in it, whose items or members begin their lines at `level`. -/
inductive LaidOut : Nat → Part → List Char → Prop where
  | null {level : Nat} : LaidOut level (.value .null) "null".toList
  | yes {level : Nat} : LaidOut level (.value (.boolean true)) "true".toList
  | no {level : Nat} : LaidOut level (.value (.boolean false)) "false".toList
  | number {level : Nat} {value : Int} {text : List Char} (numeral : Text.IsNumeral text value) :
      LaidOut level (.value (Json.integer value)) text
  | string {level : Nat} {content : String} {text : List Char}
      (quotation : Quoted.IsQuotation text content) : LaidOut level (.value (.string content)) text
  | emptyArray {level : Nat} : LaidOut level (.value (.array [])) ['[', ']']
  | array {level : Nat} {items : List Json} {lines : List Char}
      (within : LaidOut (level + 1) (.items items) lines) :
      LaidOut level (.value (.array items))
        ('[' :: lines ++ '\n' :: List.replicate (2 * level) ' ' ++ [']'])
  | emptyObject {level : Nat} : LaidOut level (.value (.object [])) ['{', '}']
  | object {level : Nat} {members : List (String × Json)} {lines : List Char}
      (within : LaidOut (level + 1) (.members members) lines) :
      LaidOut level (.value (.object members))
        ('{' :: lines ++ '\n' :: List.replicate (2 * level) ' ' ++ ['}'])
  | lastItem {level : Nat} {item : Json} {text : List Char}
      (last : LaidOut level (.value item) text) :
      LaidOut level (.items [item]) ('\n' :: List.replicate (2 * level) ' ' ++ text)
  | nextItem {level : Nat} {item : Json} {text lines : List Char} {others : List Json}
      (first : LaidOut level (.value item) text) (further : LaidOut level (.items others) lines) :
      LaidOut level (.items (item :: others))
        ('\n' :: List.replicate (2 * level) ' ' ++ text ++ ',' :: lines)
  | lastMember {level : Nat} {name : String} {value : Json} {key text : List Char}
      (quotation : Quoted.IsQuotation key name) (last : LaidOut level (.value value) text) :
      LaidOut level (.members [(name, value)])
        ('\n' :: List.replicate (2 * level) ' ' ++ key ++ ':' :: ' ' :: text)
  | nextMember {level : Nat} {name : String} {value : Json} {key text lines : List Char}
      {others : List (String × Json)} (quotation : Quoted.IsQuotation key name)
      (first : LaidOut level (.value value) text) (further : LaidOut level (.members others) lines) :
      LaidOut level (.members ((name, value) :: others))
        ('\n' :: List.replicate (2 * level) ' ' ++ key ++ ':' :: ' ' :: text ++ ',' :: lines)

namespace Json

theorem laidOut_prettyItems {level : Nat} {items : List Json} (some : items ≠ [])
    (each : ∀ item ∈ items, LaidOut level (.value item) (prettyAt level item)) :
    LaidOut level (.items items) (prettyItems level items) := by
  induction items with
  | nil => exact absurd rfl some
  | cons item rest ih =>
    obtain ⟨first, others⟩ := List.forall_mem_cons.mp each
    cases rest with
    | nil => exact .lastItem first
    | cons next rest => exact .nextItem first (ih (List.cons_ne_nil next rest) others)

theorem laidOut_prettyMembers {level : Nat} {members : List (String × Json)} (some : members ≠ [])
    (each : ∀ member ∈ members, LaidOut level (.value member.2) (prettyAt level member.2)) :
    LaidOut level (.members members) (prettyMembers level members) := by
  induction members with
  | nil => exact absurd rfl some
  | cons member rest ih =>
    obtain ⟨name, value⟩ := member
    obtain ⟨first, others⟩ := List.forall_mem_cons.mp each
    have quotation := isQuotation_quoted name
    cases rest with
    | nil => exact .lastMember quotation first
    | cons next rest => exact .nextMember quotation first (ih (List.cons_ne_nil next rest) others)

/-- Printing lays a value out, if its numbers are whole. -/
theorem laidOut_prettyAt {value : Json} (integers : value.NumbersAre Number.IsInteger)
    (level : Nat) : LaidOut level (.value value) (prettyAt level value) := by
  induction integers generalizing level with
  | null => exact .null
  | boolean value => cases value <;> constructor
  | @number value integer =>
    cases value with
    | integer value => exact .number (Text.isNumeral_decimal value)
    | real value => exact integer.elim
  | string value => exact .string (isQuotation_quoted value)
  | @array items _ each =>
    cases items with
    | nil => exact .emptyArray
    | cons item rest =>
      exact .array (laidOut_prettyItems (List.cons_ne_nil item rest) fun item member =>
        each item member (level + 1))
  | @object members _ each =>
    cases members with
    | nil => exact .emptyObject
    | cons member rest =>
      exact .object (laidOut_prettyMembers (List.cons_ne_nil member rest) fun member among =>
        each member among (level + 1))

end Json

end TaxonomyQuery
