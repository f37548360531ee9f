import Mathlib.Data.List.Basic
import Mathlib.Data.List.TakeWhile
import TaxonomyQuery.Term.Basic
/-!
Which texts are read as whole numbers, and as which: digits with or without a sign, as long as the
number is within the bound. Numbers past it are not read at all.
-/

set_option autoImplicit false

namespace TaxonomyQuery

namespace Text

/-! ### Numerals -/

/-- At least one digit. Zeros in front do not count. -/
structure IsDigits (digits : List Char) (value : Nat) : Prop where
  nonempty : digits ≠ []
  all : ∀ c ∈ digits, c.isDigit
  value_eq : Nat.ofDigitChars 10 digits 0 = value

/-- A plus sign may stand in front, and no other. -/
inductive IsNatural : List Char → Nat → Prop where
  | bare {digits : List Char} {value : Nat} (written : IsDigits digits value) :
      IsNatural digits value
  | plus {digits : List Char} {value : Nat} (written : IsDigits digits value) :
      IsNatural ('+' :: digits) value

inductive IsInteger : List Char → Int → Prop where
  | natural {text : List Char} {value : Nat} (written : IsNatural text value) :
      IsInteger text value
  | minus {digits : List Char} {value : Nat} (written : IsDigits digits value) :
      IsInteger ('-' :: digits) (-value)

variable {text digits : List Char}

theorem not_isDigits_cons {c : Char} (sign : c.isDigit = false) (value : Nat) :
    ¬ IsDigits (c :: digits) value := by
  intro written
  have digit := written.all c List.mem_cons_self
  rw [sign] at digit
  cases digit

theorem not_isNatural_minus (value : Nat) : ¬ IsNatural ('-' :: digits) value := by
  intro written
  cases written with
  | bare written => exact not_isDigits_cons rfl value written

theorem isNatural_plus_iff {value : Nat} :
    IsNatural ('+' :: digits) value ↔ IsDigits digits value := by
  constructor
  · intro written
    cases written with
    | bare written => exact absurd written (not_isDigits_cons rfl value)
    | plus written => exact written
  · exact .plus

theorem isNatural_iff_isDigits {value : Nat} (unsigned : ∀ digits, text ≠ '+' :: digits) :
    IsNatural text value ↔ IsDigits text value := by
  constructor
  · intro written
    cases written with
    | bare written => exact written
    | plus _ => exact absurd rfl (unsigned _)
  · exact .bare

theorem isInteger_minus_iff {value : Int} :
    IsInteger ('-' :: digits) value ↔ ∃ size : Nat, IsDigits digits size ∧ -size = value := by
  constructor
  · intro written
    cases written with
    | natural written => exact absurd written (not_isNatural_minus _)
    | minus written => exact ⟨_, written, rfl⟩
  · rintro ⟨size, written, rfl⟩
    exact .minus written

theorem isInteger_iff_isNatural {value : Int} (positive : ∀ digits, text ≠ '-' :: digits) :
    IsInteger text value ↔ ∃ size : Nat, IsNatural text size ∧ size = value := by
  constructor
  · intro written
    cases written with
    | natural written => exact ⟨_, written, rfl⟩
    | minus _ => exact absurd rfl (positive _)
  · rintro ⟨size, written, rfl⟩
    exact .natural written

theorem IsDigits.unique {value other : Nat} (first : IsDigits digits value)
    (second : IsDigits digits other) : value = other :=
  first.value_eq.symm.trans second.value_eq

theorem IsNatural.unique {value other : Nat} (first : IsNatural text value)
    (second : IsNatural text other) : value = other := by
  cases first with
  | bare first =>
    cases second with
    | bare second => exact first.unique second
    | plus _ => exact absurd first (not_isDigits_cons rfl _)
  | plus first => exact first.unique (isNatural_plus_iff.mp second)

theorem IsInteger.unique {value other : Int} (first : IsInteger text value)
    (second : IsInteger text other) : value = other := by
  cases first with
  | natural first =>
    cases second with
    | natural second => exact congrArg _ (first.unique second)
    | minus _ => exact absurd first (not_isNatural_minus _)
  | minus first =>
    obtain ⟨size, written, rfl⟩ := isInteger_minus_iff.mp second
    rw [first.unique written]

/-! ### Reading -/

theorem le_ofDigitChars (digits : List Char) (value : Nat) :
    value ≤ Nat.ofDigitChars 10 digits value := by
  induction digits generalizing value with
  | nil => exact Nat.le_refl _
  | cons c digits ih =>
    rw [Nat.ofDigitChars_cons]
    exact Nat.le_trans (by omega) (ih _)

/-- The value only grows while digits are read, so it is within the bound all along if it is at the
end. -/
theorem readDigits_eq_ok_iff {bound value result : Nat} (small : value ≤ bound) :
    readDigits bound value digits = .ok result ↔
      (∀ c ∈ digits, c.isDigit) ∧ Nat.ofDigitChars 10 digits value = result ∧
        result ≤ bound := by
  induction digits generalizing value with
  | nil =>
    rw [readDigits_nil, Nat.ofDigitChars_nil, Except.ok.injEq]
    constructor
    · intro same
      exact ⟨nofun, same, same ▸ small⟩
    · intro read
      exact read.2.1
  | cons c digits ih =>
    have next : 10 * value + (c.toNat - '0'.toNat) = value * 10 + digitValue c := by
      rw [Nat.mul_comm, digitValue]
    have grown := le_ofDigitChars digits (value * 10 + digitValue c)
    rw [readDigits, Nat.ofDigitChars_cons, next, List.forall_mem_cons, and_assoc]
    -- A character that is no digit is refused before the bound is looked at.
    by_cases digit : c.isDigit
    · rw [if_pos digit]
      by_cases within : value * 10 + digitValue c ≤ bound
      · rw [if_pos within, ih within]
        exact (and_iff_right digit).symm
      · rw [if_neg within]
        constructor
        · nofun
        · rintro ⟨_, _, rfl, fits⟩
          exact absurd (Nat.le_trans grown fits) within
    · rw [if_neg digit]
      constructor
      · nofun
      · intro read
        exact absurd read.1 digit

theorem readDigits_zero_eq_ok_iff {bound result : Nat} (nonempty : digits ≠ []) :
    readDigits bound 0 digits = .ok result ↔ IsDigits digits result ∧ result ≤ bound := by
  rw [readDigits_eq_ok_iff (Nat.zero_le bound)]
  constructor
  · intro read
    exact ⟨⟨nonempty, read.1, read.2.1⟩, read.2.2⟩
  · intro ⟨written, fits⟩
    exact ⟨written.all, written.value_eq, fits⟩

theorem not_isDigits_nil (value : Nat) : ¬ IsDigits [] value := fun written =>
  written.nonempty rfl

/-- Exactly the numerals of numbers up to the bound are read. -/
theorem readNatural_eq_ok_iff {bound value : Nat} :
    readNatural bound text = .ok value ↔ IsNatural text value ∧ value ≤ bound := by
  unfold readNatural
  split
  next =>
    rw [isNatural_iff_isDigits (by simp)]
    simp [not_isDigits_nil]
  next =>
    rw [isNatural_plus_iff]
    simp [not_isDigits_nil]
  next digits nonempty =>
    rw [isNatural_plus_iff]
    exact readDigits_zero_eq_ok_iff nonempty
  next nonempty _ unsigned =>
    rw [isNatural_iff_isDigits unsigned]
    exact readDigits_zero_eq_ok_iff nonempty

/-- The numbers of 64 bits with a sign: those from -2^63 up to 2^63 - 1. -/
def IsInt64 (value : Int) : Prop :=
  -9223372036854775808 ≤ value ∧ value ≤ 9223372036854775807

theorem isInt64_toInt (id : Int64) : IsInt64 id.toInt := by
  have low := id.le_toInt
  have high := id.toInt_lt
  exact ⟨by omega, by omega⟩

theorem IsInt64.toInt_ofInt {value : Int} (fits : IsInt64 value) :
    (Int64.ofInt value).toInt = value := by
  obtain ⟨low, high⟩ := fits
  exact Int64.toInt_ofInt_of_le (by omega) (by omega)

theorem IsInt64.ofInt_eq_iff {value : Int} (fits : IsInt64 value) {id : Int64} :
    Int64.ofInt value = id ↔ value = id.toInt := by
  rw [← Int64.toInt_inj, fits.toInt_ofInt]

/-- Where the bound is that of 64 bits, the number read is the one that is written. -/
theorem ofInt_readDigits_eq_some_iff {bound : Nat} (value : Nat → Int)
    (bounded : ∀ size, size ≤ bound ↔ IsInt64 (value size))
    (nonempty : digits ≠ []) {id : Int64} :
    (match readDigits bound 0 digits with
      | .ok size => some (Int64.ofInt (value size))
      | .error _ => none) = some id ↔
      ∃ size, IsDigits digits size ∧ value size = id.toInt := by
  constructor
  · intro read
    split at read
    next size found =>
      have ⟨written, fits⟩ := (readDigits_zero_eq_ok_iff nonempty).mp found
      exact ⟨size, written, ((bounded size).mp fits).ofInt_eq_iff.mp (Option.some.inj read)⟩
    next => cases read
  · intro ⟨size, written, same⟩
    have fits : IsInt64 (value size) := same ▸ isInt64_toInt id
    rw [(readDigits_zero_eq_ok_iff nonempty).mpr ⟨written, (bounded size).mpr fits⟩]
    exact congrArg some (fits.ofInt_eq_iff.mpr same)

/-- Exactly the numerals of numbers of 64 bits are read. -/
theorem readInt64?_eq_some_iff {id : Int64} :
    readInt64? text = some id ↔ IsInteger text id.toInt := by
  -- One number more is in range below zero than above.
  have positive (size : Nat) : size ≤ greatestInteger ↔ IsInt64 size := by
    rw [greatestInteger, IsInt64]
    omega
  have negative (size : Nat) : size ≤ greatestInteger + 1 ↔ IsInt64 (-size) := by
    rw [greatestInteger, IsInt64]
    omega
  unfold readInt64?
  split
  next =>
    rw [isInteger_iff_isNatural (by simp)]
    simp [isNatural_iff_isDigits, not_isDigits_nil]
  next =>
    rw [isInteger_iff_isNatural (by simp)]
    simp [isNatural_plus_iff, not_isDigits_nil]
  next =>
    rw [isInteger_minus_iff]
    simp [not_isDigits_nil]
  next digits nonempty =>
    rw [isInteger_minus_iff]
    exact ofInt_readDigits_eq_some_iff (fun size => -size) negative nonempty
  next digits nonempty =>
    rw [isInteger_iff_isNatural (by simp)]
    simp only [isNatural_plus_iff]
    exact ofInt_readDigits_eq_some_iff (fun size => size) positive nonempty
  next nonempty _ _ unsigned plain =>
    rw [isInteger_iff_isNatural unsigned]
    simp only [isNatural_iff_isDigits plain]
    exact ofInt_readDigits_eq_some_iff (fun size => size) positive nonempty

/-! ### Writing -/

theorem isDigit_of_mem_decimalNat {value : Nat} {c : Char} (member : c ∈ decimalNat value) :
    c.isDigit :=
  Nat.isDigit_of_mem_toDigits (by decide) (by decide) member

/-- What may stand in front of the digits of a number. -/
def signs (value : Int) : List (List Char) := if value < 0 then [['-']] else [[], ['+']]

theorem isDigits_zeros (zeros value : Nat) :
    IsDigits (List.replicate zeros '0' ++ decimalNat value) value where
  nonempty := by simp [decimalNat]
  all c member := by
    rcases List.mem_append.mp member with zero | digit
    · rw [List.eq_of_mem_replicate zero]
      rfl
    · exact isDigit_of_mem_decimalNat digit
  value_eq := by
    rw [Nat.ofDigitChars_append, Nat.ofDigitChars_replicate_zero, Nat.mul_zero, decimalNat,
      Nat.ofDigitChars_ten_toDigits]

theorem isInteger_zeros {value : Int} {sign : List Char} (fitting : sign ∈ signs value)
    (zeros : Nat) :
    IsInteger (sign ++ List.replicate zeros '0' ++ decimalNat value.natAbs) value := by
  have written := isDigits_zeros zeros value.natAbs
  rw [signs] at fitting
  rw [List.append_assoc]
  split at fitting
  next negative =>
    obtain rfl := List.mem_singleton.mp fitting
    have signed : -(value.natAbs : Int) = value := by omega
    exact isInteger_minus_iff.mpr ⟨_, written, signed⟩
  next positive =>
    have unsigned : (value.natAbs : Int) = value := by omega
    rw [← unsigned]
    rcases List.mem_pair.mp fitting with rfl | rfl
    · exact .natural (.bare written)
    · exact .natural (.plus written)

theorem isInteger_decimal (value : Int) : IsInteger (decimal value) value := by
  rw [decimal]
  split
  next negative =>
    have minus : ['-'] ∈ signs value := by simp [signs, negative]
    exact isInteger_zeros minus 0
  next positive =>
    have none : [] ∈ signs value := by simp [signs, positive]
    exact isInteger_zeros none 0

/-! ### White space around a numeral -/

/-- The text with white space, if anything, in front of it and behind. -/
def Padded (core text : List Char) : Prop :=
  ∃ before after, (∀ c ∈ before, isBlank c) ∧ (∀ c ∈ after, isBlank c) ∧
    text = before ++ core ++ after

theorem padded_trim (text : List Char) : Padded (trim text) text := by
  have front := List.takeWhile_append_dropWhile (p := isBlank) (l := text)
  have back := List.takeWhile_append_dropWhile (p := isBlank) (l := (trimLeft text).reverse)
  refine ⟨text.takeWhile isBlank, ((trimLeft text).reverse.takeWhile isBlank).reverse, ?_, ?_, ?_⟩
  · intro c taken
    exact List.mem_takeWhile_imp taken
  · intro c taken
    exact List.mem_takeWhile_imp (List.mem_reverse.mp taken)
  · have kept : trimLeft text =
        trim text ++ ((trimLeft text).reverse.takeWhile isBlank).reverse := by
      rw [trim, ← List.reverse_append]
      exact List.reverse_eq_iff.mp back.symm
    rw [List.append_assoc, ← kept]
    exact front.symm

theorem trimLeft_append {before : List Char} (blank : ∀ c ∈ before, isBlank c)
    (text : List Char) : trimLeft (before ++ text) = trimLeft text :=
  List.dropWhile_append_of_pos blank

theorem trimLeft_append_of_solid {core : List Char} (nonempty : core ≠ [])
    (solid : ∀ c ∈ core, isBlank c = false) (after : List Char) :
    trimLeft (core ++ after) = core ++ after := by
  cases core with
  | nil => exact absurd rfl nonempty
  | cons c core =>
    rw [List.cons_append, trimLeft_cons, solid c List.mem_cons_self]
    rfl

theorem trim_eq_of_padded {core : List Char} (padded : Padded core text) (nonempty : core ≠ [])
    (solid : ∀ c ∈ core, isBlank c = false) : trim text = core := by
  obtain ⟨before, after, front, back, rfl⟩ := padded
  -- The end is trimmed as the front of the text turned around.
  have reversed : (core ++ after).reverse = after.reverse ++ (core.reverse ++ []) := by simp
  rw [trim, List.append_assoc, trimLeft_append front, trimLeft_append_of_solid nonempty solid,
    reversed, trimLeft_append fun c member => back c (List.mem_reverse.mp member),
    trimLeft_append_of_solid, List.append_nil, List.reverse_reverse]
  · exact mt List.reverse_eq_nil_iff.mp nonempty
  · intro c member
    exact solid c (List.mem_reverse.mp member)

theorem isBlank_of_isDigit {c : Char} (digit : c.isDigit) : isBlank c = false := by
  have bounds : 48 ≤ c.toNat ∧ c.toNat ≤ 57 := by
    simpa [Char.isDigit, UInt32.le_iff_toNat_le] using digit
  simp only [isBlank, Bool.or_eq_false_iff, Bool.and_eq_false_iff, decide_eq_false_iff_not]
  omega

theorem IsDigits.solid {value : Nat} (written : IsDigits digits value) :
    ∀ c ∈ digits, isBlank c = false := fun c member => isBlank_of_isDigit (written.all c member)

theorem IsInteger.solid {value : Int} (written : IsInteger text value) :
    text ≠ [] ∧ ∀ c ∈ text, isBlank c = false := by
  cases written with
  | natural written =>
    cases written with
    | bare written => exact ⟨written.nonempty, written.solid⟩
    | plus written =>
      exact ⟨List.cons_ne_nil _ _, List.forall_mem_cons.mpr ⟨rfl, written.solid⟩⟩
  | minus written =>
    exact ⟨List.cons_ne_nil _ _, List.forall_mem_cons.mpr ⟨rfl, written.solid⟩⟩

theorem IsInteger.trim_eq {numeral : List Char} {value : Int} (written : IsInteger numeral value)
    (padded : Padded numeral text) : trim text = numeral :=
  trim_eq_of_padded padded written.solid.1 written.solid.2

end Text

namespace TermValue

open Text (IsInt64 IsInteger Padded isBlank)

theorem id?_name_eq_some_iff {name : String} {id : Int64} :
    (TermValue.name name).id? = some id ↔
      ∃ numeral, Padded numeral name.toList ∧ IsInteger numeral id.toInt := by
  rw [id?, Text.readInt64?_eq_some_iff]
  constructor
  · intro written
    exact ⟨_, Text.padded_trim _, written⟩
  · intro ⟨numeral, padded, written⟩
    rwa [written.trim_eq padded]

theorem id?_name_padded {before after : String} (front : ∀ c ∈ before.toList, isBlank c)
    (back : ∀ c ∈ after.toList, isBlank c) {numeral : List Char} {id : Int64}
    (written : IsInteger numeral id.toInt) :
    (TermValue.name (before ++ String.ofList numeral ++ after)).id? = some id := by
  apply id?_name_eq_some_iff.mpr
  refine ⟨numeral, ⟨before.toList, after.toList, front, back, ?_⟩, written⟩
  rw [String.toList_append, String.toList_append, String.toList_ofList]

/-- A name is read as an id exactly if it is the numeral of a number of 64 bits, but for white space
around it, and as that number. Every id is read back from its text, whatever white space is put
around it. -/
theorem numeric_names_read_exactly :
    (∀ name : String,
      (∀ id : Int64, (TermValue.name name).id? = some id ↔
        ∃ numeral, Padded numeral name.toList ∧ IsInteger numeral id.toInt) ∧
      ((TermValue.name name).id? = none ↔ ¬ ∃ numeral value, Padded numeral name.toList ∧
        IsInteger numeral value ∧ IsInt64 value) ∧
      ∀ numeral value, Padded numeral name.toList → IsInteger numeral value →
        ¬ IsInt64 value → (TermValue.name name).id? = none) ∧
    ∀ (id : Int64) (before after : String), (∀ c ∈ before.toList, isBlank c) →
      (∀ c ∈ after.toList, isBlank c) →
      (TermValue.name (before ++ (TermValue.id id).text ++ after)).id? = some id := by
  refine ⟨fun name => ⟨fun id => id?_name_eq_some_iff, ?unread, ?outside⟩, ?written⟩
  case unread =>
    rw [Option.eq_none_iff_forall_ne_some]
    constructor
    · intro unread ⟨numeral, value, padded, written, fits⟩
      rw [← fits.toInt_ofInt] at written
      exact unread _ (id?_name_eq_some_iff.mpr ⟨numeral, padded, written⟩)
    · intro absent id read
      obtain ⟨numeral, padded, written⟩ := id?_name_eq_some_iff.mp read
      exact absent ⟨numeral, id.toInt, padded, written, Text.isInt64_toInt id⟩
  case outside =>
    intro numeral value padded written outside
    rw [Option.eq_none_iff_forall_ne_some]
    intro id read
    obtain ⟨other, another, same⟩ := id?_name_eq_some_iff.mp read
    rw [← same.trim_eq another, written.trim_eq padded] at same
    rw [written.unique same] at outside
    exact outside (Text.isInt64_toInt id)
  case written =>
    intro id before after front back
    exact id?_name_padded front back (Text.isInteger_decimal id.toInt)

/-- The least number has no positive counterpart, and zeros in front do not count. -/
theorem numeric_names_read_exactly_of_limits :
    let least := "\u2003-009223372036854775808\n"
    let tooLarge := " +9223372036854775808"
    let numeral := "-009223372036854775808".toList
    let unbounded := "+9223372036854775808".toList
    (Padded numeral least.toList ∧ IsInteger numeral Int64.minValue.toInt) ∧
      (TermValue.name least).id? = some Int64.minValue ∧
      (Padded unbounded tooLarge.toList ∧ IsInteger unbounded 9223372036854775808) ∧
      ¬ IsInt64 9223372036854775808 ∧
      (TermValue.name tooLarge).id? = none ∧
      (TermValue.name ("\t" ++ (TermValue.id Int64.minValue).text ++ "\u00A0")).id? =
        some Int64.minValue := by
  intro least tooLarge numeral unbounded
  have padded : Padded numeral least.toList :=
    ⟨['\u2003'], ['\n'], List.forall_mem_singleton.mpr rfl, List.forall_mem_singleton.mpr rfl,
      by decide⟩
  have zeros : Text.IsDigits "009223372036854775808".toList 9223372036854775808 :=
    ⟨by decide, List.all_eq_true.mp (by decide), by decide⟩
  have written : IsInteger numeral Int64.minValue.toInt := .minus zeros
  have surrounded : Padded unbounded tooLarge.toList :=
    ⟨[' '], [], List.forall_mem_singleton.mpr rfl, nofun, by decide⟩
  have digits : Text.IsDigits "9223372036854775808".toList 9223372036854775808 :=
    ⟨by decide, List.all_eq_true.mp (by decide), by decide⟩
  have past : IsInteger unbounded 9223372036854775808 := .natural (.plus digits)
  have outside : ¬ IsInt64 9223372036854775808 := fun fits => absurd fits.2 (by decide)
  obtain ⟨read, readBack⟩ := numeric_names_read_exactly
  exact ⟨⟨padded, written⟩, ((read least).1 _).mpr ⟨numeral, padded, written⟩,
    ⟨surrounded, past⟩, outside, (read tooLarge).2.2 unbounded _ surrounded past outside,
    readBack Int64.minValue "\t" "\u00A0" (List.all_eq_true.mp (by decide))
      (List.all_eq_true.mp (by decide))⟩

end TermValue

end TaxonomyQuery
