import TaxonomyQuery.Json.Number
import TaxonomyQuery.Proofs.Numerals
import TaxonomyQuery.Proofs.UniformDecoding
/-!
Whole numbers as text. The digits of a number of at most 64 bits are scanned up to their end, and
the literal they make is that number.
-/

set_option autoImplicit false

namespace TaxonomyQuery.Number

/-- A number in front of such a text ends there. -/
def Ends (text : List Char) : Prop :=
  ∀ c ∈ text.head?, c.isDigit = false ∧ c ≠ '.' ∧ isExponentMark c = false

theorem ends_nil : Ends [] := by simp [Ends]

theorem ends_cons {c : Char} {rest : List Char}
    (solid : c.isDigit = false ∧ c ≠ '.' ∧ isExponentMark c = false) : Ends (c :: rest) := by
  simpa [Ends] using solid

theorem solid_of_isSpace {c : Char} (space : isSpace c) :
    c.isDigit = false ∧ c ≠ '.' ∧ isExponentMark c = false := by
  simp only [isSpace, Bool.or_eq_true, decide_eq_true_eq] at space
  obtain ((rfl | rfl) | rfl) | rfl := space <;> decide

variable {digits rest : List Char}

theorem scanDigits_append (some : digits ≠ []) (all : ∀ c ∈ digits, c.isDigit) (ends : Ends rest) :
    scanDigits (digits ++ rest) = .ok (digits, rest) := by
  have none : rest.takeWhile Char.isDigit = [] ∧ rest.dropWhile Char.isDigit = rest := by
    cases rest with
    | nil => exact ⟨rfl, rfl⟩
    | cons c rest =>
      have solid : c.isDigit = false := (ends c rfl).1
      simp [solid]
  have taken : (digits ++ rest).takeWhile Char.isDigit = digits := by
    rw [List.takeWhile_append_of_pos all, none.1, List.append_nil]
  have dropped : (digits ++ rest).dropWhile Char.isDigit = rest := by
    rw [List.dropWhile_append_of_pos all, none.2]
  cases digits with
  | nil => exact absurd rfl some
  | cons c digits =>
    have first : c.isDigit := all c List.mem_cons_self
    rw [List.cons_append] at taken dropped ⊢
    simp only [scanDigits, first, if_true, taken, dropped]

/-- A whole number is written with a digit in front, which is a zero for zero only. -/
theorem exists_decimalNat_eq_cons (value : Nat) :
    ∃ c more, Text.decimalNat value = c :: more ∧ (c = '0' → value = 0) := by
  induction value using Nat.strongRecOn with
  | _ value ih =>
    rcases Nat.lt_or_ge value 10 with small | large
    · refine ⟨_, [], Nat.toDigits_of_lt_base small, ?_⟩
      have each : ∀ value : Fin 10, Nat.digitChar value = '0' → value.val = 0 := by decide
      exact each ⟨value, small⟩
    · obtain ⟨c, more, front, zero⟩ := ih (value / 10) (by omega)
      rw [Text.decimalNat] at front
      rw [Text.decimalNat, Nat.toDigits_of_base_le (by decide) large, front]
      refine ⟨c, _, rfl, fun isZero => ?_⟩
      have := zero isZero
      omega

/-- The digits of a whole number stand without a zero in front, so all of them are taken. -/
theorem scanWhole_append (value : Nat) (ends : Ends rest) :
    scanWhole (Text.decimalNat value ++ rest) = .ok (Text.decimalNat value, rest) := by
  obtain ⟨c, more, front, zero⟩ := exists_decimalNat_eq_cons value
  have scanned : scanDigits (Text.decimalNat value ++ rest) = .ok (Text.decimalNat value, rest) :=
    scanDigits_append (by simp [front]) (fun c => Text.isDigit_of_mem_decimalNat) ends
  unfold scanWhole
  split
  · rename_i next left same
    rw [front, List.cons_append, List.cons.injEq] at same
    obtain rfl := zero same.1
    have solid : next.isDigit = false := by
      cases front
      exact (ends next (congrArg List.head? same.2)).1
    cases front
    rw [solid, ← same.2]
    rfl
  · exact scanned

theorem scanUnsigned_append (negative : Bool) (value : Nat) (ends : Ends rest) :
    scanUnsigned negative (Text.decimalNat value ++ rest) =
      .ok (⟨negative, Text.decimalNat value, [], none⟩, rest) := by
  have fraction : scanFraction rest = .ok ([], rest) := by
    unfold scanFraction
    split
    · exact absurd rfl (ends '.' rfl).2.1
    · rfl
  have exponent : scanExponent rest = .ok (none, rest) := by
    cases rest with
    | nil => rfl
    | cons c rest =>
      have unmarked : isExponentMark c = false := (ends c rfl).2.2
      simp [scanExponent, unmarked]
  simp only [scanUnsigned, Decoder.bind_eq_ok_iff]
  exact ⟨_, scanWhole_append value ends, _, fraction, _, exponent, rfl⟩

theorem scan_decimal_append (value : Int) (ends : Ends rest) :
    scan (Text.decimal value ++ rest) =
      .ok (⟨decide (value < 0), Text.decimalNat value.natAbs, [], none⟩, rest) := by
  have unsigned := fun negative => scanUnsigned_append negative value.natAbs ends
  by_cases negative : value < 0
  · rw [Text.decimal, if_pos negative, List.cons_append, scan, unsigned, decide_eq_true negative]
  · obtain ⟨c, more, front, -⟩ := exists_decimalNat_eq_cons value.natAbs
    have digit : c.isDigit := Text.isDigit_of_mem_decimalNat (front ▸ List.mem_cons_self)
    rw [Text.decimal, if_neg negative, decide_eq_false negative, ← unsigned, front,
      List.cons_append]
    unfold scan
    split
    · rename_i same
      rw [(List.cons.inj same).1] at digit
      cases digit
    · rfl

theorem exists_decimal_eq_cons (value : Int) :
    ∃ c more, Text.decimal value = c :: more ∧ (c = '-' ∨ c.isDigit) := by
  by_cases negative : value < 0
  · exact ⟨'-', _, if_pos negative, .inl rfl⟩
  · obtain ⟨c, more, front, -⟩ := exists_decimalNat_eq_cons value.natAbs
    refine ⟨c, more, (if_neg negative).trans front, .inr ?_⟩
    exact Text.isDigit_of_mem_decimalNat (front ▸ List.mem_cons_self)

theorem takeDigits_eq_of_le {value : Nat}
    (small : Nat.ofDigitChars 10 digits value ≤ Text.greatestNatural) :
    takeDigits value digits = (Nat.ofDigitChars 10 digits value, []) := by
  induction digits generalizing value with
  | nil => rfl
  | cons c digits ih =>
    rw [Nat.ofDigitChars_cons, Nat.mul_comm 10 value] at small ⊢
    have next := Nat.le_trans (Text.le_ofDigitChars digits _) small
    rw [takeDigits]
    simp only [Text.digitValue, next, if_true]
    exact ih small

/-- The whole numbers of 64 bits, with or without a sign. -/
def IsWhole : Number → Prop
  | .integer value => -(Text.greatestInteger + 1 : Int) ≤ value ∧ value ≤ Text.greatestNatural
  | .real _ => False

theorem ofLiteral?_decimal {value : Int} (whole : IsWhole (.integer value)) :
    ofLiteral? ⟨decide (value < 0), Text.decimalNat value.natAbs, [], none⟩ =
      some (.integer value) := by
  obtain ⟨low, high⟩ := whole
  have read : takeDigits 0 (Text.decimalNat value.natAbs) = (value.natAbs, []) := by
    have same : Nat.ofDigitChars 10 (Text.decimalNat value.natAbs) 0 = value.natAbs :=
      Nat.ofDigitChars_toDigits (by decide) (by decide)
    have small : value.natAbs ≤ Text.greatestNatural := by
      simp only [Text.greatestInteger, Text.greatestNatural] at low high ⊢
      omega
    rw [takeDigits_eq_of_le (Nat.le_trans (Nat.le_of_eq same) small), same]
  simp only [ofLiteral?, read]
  by_cases negative : value < 0
  · have bounded : value.natAbs ≤ Text.greatestInteger + 1 := by omega
    have positive : 0 < value.natAbs := by omega
    have signed : -(value.natAbs : Int) = value := by omega
    simp only [negative, bounded, positive, decide_true, signed]
    rfl
  · have unsigned : (value.natAbs : Int) = value := by omega
    simp [negative, unsigned]

end TaxonomyQuery.Number
