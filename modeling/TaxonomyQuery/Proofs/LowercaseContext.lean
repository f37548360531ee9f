import TaxonomyQuery.Text.Lowercase
/-!
Lower case in context. Only the capital sigma looks at what stands around it, so the lower case form
of a piece of a text is a piece of the text's lower case form, unless one of its sigmas ends a word
in the one and not in the other.
-/

set_option autoImplicit false

namespace TaxonomyQuery.Text

namespace Lowercase

/-- A capital sigma between these texts, of which the first is read backwards, ends a word. -/
def endsWord (before rest : List Char) : Bool := meetsCased before && !meetsCased rest

/-- The lower case form of a character between these texts. -/
def form (before : List Char) (c : Char) (rest : List Char) : List Char :=
  if c = 'Σ' then [if endsWord before rest then 'ς' else 'σ'] else ofChar c

/-- The lower case form that a text has between two others. -/
def between (before rest : List Char) : List Char → List Char
  | [] => []
  | c :: text => form before c (text ++ rest) ++ between (c :: before) rest text

theorem after_cons (before : List Char) (c : Char) (rest : List Char) :
    after before (c :: rest) = form before c rest ++ after (c :: before) rest := by
  rw [after, form]
  split <;> rfl

theorem after_append (before text rest : List Char) :
    after before (text ++ rest) =
      between before rest text ++ after (text.reverse ++ before) rest := by
  induction text generalizing before with
  | nil => rfl
  | cons c text ih =>
    rw [List.cons_append, after_cons, ih, between, List.append_assoc, List.reverse_cons,
      List.append_assoc]
    rfl

theorem lowercase_eq_between (text : List Char) : lowercase text = between [] [] text := by
  have whole := after_append [] text []
  rwa [List.append_nil, after, List.append_nil] at whole

theorem lowercase_append_append (before piece rest : List Char) :
    lowercase (before ++ piece ++ rest) =
      between [] (piece ++ rest) before ++ between before.reverse rest piece ++
        after (piece.reverse ++ before.reverse) rest := by
  rw [lowercase, List.append_assoc, after_append, List.append_nil, after_append, List.append_assoc]

/-! ### Where two contexts differ -/

theorem form_eq_iff {before rest other last : List Char} {c : Char} :
    form before c rest = form other c last ↔
      (c = 'Σ' → endsWord before rest = endsWord other last) := by
  rw [form, form]
  split
  · rename_i sigma
    cases endsWord before rest <;> cases endsWord other last <;> simp [sigma]
  · rename_i plain
    simp [plain]

theorem length_form (before rest other last : List Char) (c : Char) :
    (form before c rest).length = (form other c last).length := by
  rw [form, form]
  split <;> rfl

theorem length_between (before rest other last text : List Char) :
    (between before rest text).length = (between other last text).length := by
  induction text generalizing before other with
  | nil => rfl
  | cons c text ih =>
    rw [between, between, List.length_append, List.length_append, ih (c :: before) (c :: other),
      length_form before (text ++ rest) other (text ++ last)]

/-- The form of a text is the same in two contexts exactly if each of its sigmas ends a word in both
or in none. -/
theorem between_eq_iff {before rest other last text : List Char} :
    between before rest text = between other last text ↔
      ∀ front back, text = front ++ 'Σ' :: back →
        endsWord (front.reverse ++ before) (back ++ rest) =
          endsWord (front.reverse ++ other) (back ++ last) := by
  induction text generalizing before other with
  | nil => simp [between]
  | cons c text ih =>
    have split : between before rest (c :: text) = between other last (c :: text) ↔
        form before c (text ++ rest) = form other c (text ++ last) ∧
          between (c :: before) rest text = between (c :: other) last text := by
      rw [between, between]
      constructor
      · intro same
        exact List.append_inj same (length_form _ _ _ _ c)
      · rintro ⟨here, there⟩
        rw [here, there]
    rw [split, ih, form_eq_iff]
    constructor
    · rintro ⟨here, there⟩ front back cut
      cases front with
      | nil =>
        obtain ⟨rfl, rfl⟩ := List.cons.inj cut
        exact here rfl
      | cons first front =>
        obtain ⟨rfl, rfl⟩ := List.cons.inj cut
        simpa using there front back rfl
    · intro same
      constructor
      · rintro rfl
        exact same [] text rfl
      · rintro front back rfl
        simpa using same (c :: front) back rfl

end Lowercase

open Lowercase

/-! ### Pieces of a text -/

/-- Between these texts each capital sigma of the piece ends a word just if it does in the piece
alone. -/
def SigmasStay (before piece rest : List Char) : Prop :=
  ∀ front back, piece = front ++ 'Σ' :: back →
    endsWord (front.reverse ++ before.reverse) (back ++ rest) = endsWord front.reverse back

theorem between_eq_lowercase_iff {before piece rest : List Char} :
    between before.reverse rest piece = lowercase piece ↔ SigmasStay before piece rest := by
  rw [lowercase_eq_between, between_eq_iff, SigmasStay]
  simp only [List.append_nil]

theorem isSubstring_of_sigmasStay {before piece rest : List Char}
    (stay : SigmasStay before piece rest) :
    isSubstring (lowercase piece) (lowercase (before ++ piece ++ rest)) := by
  rw [isSubstring_iff, lowercase_append_append, between_eq_lowercase_iff.mpr stay]
  exact List.infix_append _ _ _

/-! ### Pieces that fit everywhere -/

/-- There is something in the text that case does not pass over. -/
def isSolid (text : List Char) : Bool := text.any fun c => !within ignorable c

/-- What ends a word in the piece does so wherever the piece stands: each capital sigma is followed
by a letter with a case, or else something that case does not pass over stands before it, and behind
it as well if that before it is a letter with a case. -/
def Settled (piece : List Char) : Prop :=
  ∀ front back, piece = front ++ 'Σ' :: back →
    meetsCased back ∨ isSolid front ∧ (meetsCased front.reverse → isSolid back)

theorem meetsCased_append (text more : List Char) :
    meetsCased (text ++ more) = if isSolid text then meetsCased text else meetsCased more := by
  induction text with
  | nil => rfl
  | cons c text ih =>
    cases passed : within ignorable c <;> simp_all [meetsCased, isSolid]

theorem isSolid_reverse (text : List Char) : isSolid text.reverse = isSolid text :=
  List.any_reverse

theorem isSolid_of_meetsCased {text : List Char} (cased : meetsCased text) : isSolid text := by
  have whole := meetsCased_append text []
  rw [List.append_nil] at whole
  cases solid : isSolid text with
  | true => rfl
  | false =>
    rw [cased, solid] at whole
    cases whole

/-- Some letter with a case, in lower case already, is not this character. -/
theorem exists_letter_ne (other : Option Char) :
    ∃ letter, other ≠ some letter ∧ meetsCased [letter] ∧ ofChar letter = [letter] := by
  by_cases same : other = some 'a'
  · exact ⟨'b', by simp [same], by decide +kernel, by decide +kernel⟩
  · exact ⟨'a', same, by decide +kernel, by decide +kernel⟩

theorem form_of_ofChar {letter : Char} (plain : ofChar letter = [letter])
    (before rest : List Char) : form before letter rest = [letter] := by
  rw [form]
  split
  · rename_i sigma
    rw [sigma] at plain
    exact absurd plain (by decide +kernel)
  · exact plain

theorem not_infix_of_head? {part text : List Char} {c : Char} (same : part.length = text.length)
    (different : part ≠ text) (head : part.head? ≠ some c) : ¬ part <:+: c :: text := by
  rw [List.infix_cons_iff, List.prefix_cons_iff]
  rintro ((rfl | ⟨tail, rfl, _⟩) | inside)
  · obtain rfl := List.length_eq_zero_iff.mp same.symm
    exact different rfl
  · exact head rfl
  · exact different (inside.eq_of_length same)

theorem not_infix_of_getLast? {part text : List Char} {c : Char} (same : part.length = text.length)
    (different : part ≠ text) (last : part.getLast? ≠ some c) : ¬ part <:+: text ++ [c] := by
  rw [← List.reverse_infix, List.reverse_append, List.reverse_singleton, List.singleton_append]
  apply not_infix_of_head?
  · rw [List.length_reverse, List.length_reverse, same]
  · exact fun equal => different (List.reverse_inj.mp equal)
  · rwa [List.head?_reverse]

theorem Settled.sigmasStay {piece : List Char} (settled : Settled piece) (before rest : List Char) :
    SigmasStay before piece rest := by
  intro front back cut
  simp only [endsWord, meetsCased_append, isSolid_reverse]
  rcases settled front back cut with cased | ⟨solid, behind⟩
  · simp [cased, isSolid_of_meetsCased cased]
  · rw [if_pos solid]
    cases cased : meetsCased front.reverse with
    | false => rfl
    | true => rw [if_pos (behind cased)]

section Moved

variable {piece : List Char} {letter : Char} (plain : ofChar letter = [letter])

include plain

theorem not_isSubstring_behind (head : (lowercase piece).head? ≠ some letter)
    (moved : ¬ SigmasStay [letter] piece []) :
    ¬ isSubstring (lowercase piece) (lowercase ([letter] ++ piece ++ [])) := by
  have text : lowercase ([letter] ++ piece ++ []) = letter :: between [letter] [] piece := by
    rw [lowercase_append_append, between, form_of_ofChar plain, after, List.append_nil]
    rfl
  rw [isSubstring_iff, text]
  apply not_infix_of_head? _ _ head
  · rw [lowercase_eq_between]
    exact length_between _ _ _ _ piece
  · exact fun same => moved (between_eq_lowercase_iff.mp same.symm)

theorem not_isSubstring_before (last : (lowercase piece).getLast? ≠ some letter)
    (moved : ¬ SigmasStay [] piece [letter]) :
    ¬ isSubstring (lowercase piece) (lowercase ([] ++ piece ++ [letter])) := by
  have text : lowercase ([] ++ piece ++ [letter]) = between [] [letter] piece ++ [letter] := by
    rw [lowercase_append_append, after_cons, form_of_ofChar plain, after]
    rfl
  rw [isSubstring_iff, text]
  apply not_infix_of_getLast? _ _ last
  · rw [lowercase_eq_between]
    exact length_between _ _ _ _ piece
  · exact fun same => moved (between_eq_lowercase_iff.mp same.symm)

end Moved

/-- A sigma that is not settled changes its form behind a letter, or before one, so the piece is not
found in every text that it is a piece of. -/
theorem settled_of_isSubstring {piece : List Char}
    (found : ∀ before rest,
      isSubstring (lowercase piece) (lowercase (before ++ piece ++ rest))) : Settled piece := by
  intro front back cut
  cases uncased : meetsCased back with
  | true => exact .inl rfl
  | false =>
    refine .inr ⟨?solid, fun cased => ?behind⟩
    case solid =>
      apply Bool.of_not_eq_false
      intro loose
      obtain ⟨letter, head, letterCased, plain⟩ := exists_letter_ne (lowercase piece).head?
      apply not_isSubstring_behind plain head _ (found [letter] [])
      intro stay
      have same := stay front back cut
      have alone : meetsCased front.reverse = false := by
        apply Bool.of_not_eq_true
        intro cased
        rw [← isSolid_reverse, isSolid_of_meetsCased cased] at loose
        cases loose
      simp [endsWord, meetsCased_append, isSolid_reverse, loose, letterCased, uncased, alone] at same
    case behind =>
      apply Bool.of_not_eq_false
      intro loose
      obtain ⟨letter, last, letterCased, plain⟩ := exists_letter_ne (lowercase piece).getLast?
      apply not_isSubstring_before plain last _ (found [] [letter])
      intro stay
      have same := stay front back cut
      simp [endsWord, meetsCased_append, loose, letterCased, uncased, cased] at same

end TaxonomyQuery.Text
