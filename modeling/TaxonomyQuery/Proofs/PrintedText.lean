import TaxonomyQuery.Json.Printer
import TaxonomyQuery.Proofs.PrintedNumbers
import TaxonomyQuery.Proofs.SpelledText
/-!
Values as text. A value whose numbers are whole and of 64 bits is spelled in what is printed of it,
compact or indented, and is the value of that text, also where white space follows.
-/

set_option autoImplicit false

namespace TaxonomyQuery

/-! ### Scalars -/

namespace Reading

variable {rest : List Char}

theorem scalar_null : scalar ("null".toList ++ rest) = .complete (.plain .null) rest := by
  simp [scalar, Reading.word, readWord]

theorem scalar_word (value : Bool) :
    scalar (Json.word value ++ rest) = .complete (.plain (.boolean value)) rest := by
  cases value <;> simp [Json.word, scalar, Reading.word, readWord]

theorem scalar_quoted (text : String) :
    scalar (Json.quoted text ++ rest) = .complete (.plain (.string text)) rest := by
  have read : Quoted.scan 0 (text.toList.flatMap Quoted.encodeChar ++ '"' :: rest) =
      ⟨.ok text.toList, .ok rest⟩ := Quoted.scan_flatMap_encodeChar _ _
  simp [Json.quoted, Quoted.encode, scalar, Reading.string, read]

theorem scalar_decimal {value : Int} (whole : Number.IsWhole (.integer value))
    (ends : Number.Ends rest) :
    scalar (Text.decimal value ++ rest) = .complete (.plain (Json.integer value)) rest := by
  have read :
      number (Text.decimal value ++ rest) = .complete (.plain (Json.integer value)) rest := by
    simp only [number, Number.scan_decimal_append value ends, Number.ofLiteral?_decimal whole,
      Json.integer, Document.plain_number]
  obtain ⟨c, more, first, front⟩ := Number.exists_decimal_eq_cons value
  rw [first, List.cons_append] at read ⊢
  rw [scalar_of_number front, read]

end Reading

namespace Spells

variable {text rest : List Char}

/-- White space in front makes no difference. -/
theorem of_skipSpace {part : Part} {other : List Char} (spells : Spells text part rest)
    (same : skipSpace other = skipSpace text) : Spells other part rest := by
  induction spells generalizing other with
  | scalar first notArray notObject read => exact .scalar (same.trans first) notArray notObject read
  | emptyArray opened closed => exact .emptyArray (same.trans opened) closed
  | array opened within _ => exact .array (same.trans opened) within
  | emptyObject opened closed => exact .emptyObject (same.trans opened) closed
  | object opened within _ => exact .object (same.trans opened) within
  | lastItem _ closed first => exact .lastItem (first same) closed
  | nextItem _ comma further first _ => exact .nextItem (first same) comma further
  | lastMember quote spelled colon first closed _ =>
    exact .lastMember (same.trans quote) spelled colon first closed
  | nextMember quote spelled colon first comma further _ _ =>
    exact .nextMember (same.trans quote) spelled colon first comma further

theorem of_scalar {value : Json} (read : Reading.scalar text = .complete (.plain value) rest) :
    Spells text (.value value) rest := by
  cases text with
  | nil => simp [Reading.scalar, Reading.missing, Reading.complete] at read
  | cons c after =>
    have solid : isSpace c = false ∧ c ≠ '[' ∧ c ≠ '{' := by
      refine ⟨?_, ?_, ?_⟩
      · refine Bool.eq_false_iff.mpr fun blank => ?_
        simp only [isSpace, Bool.or_eq_true, decide_eq_true_eq] at blank
        obtain ((rfl | rfl) | rfl) | rfl := blank <;>
          simp [Reading.scalar, Reading.missing, Reading.complete] at read
      all_goals
        rintro rfl
        simp [Reading.scalar, Reading.missing, Reading.complete] at read
    exact .scalar (skipSpace_of_not_space after solid.1) solid.2.1 solid.2.2 read

end Spells

/-! ### Items and members -/

namespace Json

/-- Entries with commas between them. -/
def separated (entries : List (List Char)) : List Char := [','].intercalate entries

theorem separated_cons_cons (entry next : List Char) (others : List (List Char)) :
    separated (entry :: next :: others) = entry ++ ',' :: separated (next :: others) := by
  rw [separated, List.intercalate_cons_cons, List.append_assoc]
  rfl

theorem separated_singleton (entry : List Char) : separated [entry] = entry :=
  List.intercalate_singleton

/-- What writes every entry but the last one with a comma behind it separates them. -/
theorem eq_separated {α : Type} {join : List α → List Char} {write : α → List Char}
    (none : join [] = []) (one : ∀ entry, join [entry] = write entry)
    (more : ∀ entry next others,
      join (entry :: next :: others) = write entry ++ ',' :: join (next :: others))
    (entries : List α) : join entries = separated (entries.map write) := by
  induction entries with
  | nil => exact none
  | cons entry rest ih =>
    cases rest with
    | nil => rw [one, List.map_singleton, separated_singleton]
    | cons next others =>
      rw [more, ih, List.map_cons, List.map_cons, List.map_cons, separated_cons_cons]

/-- The text is read as the value wherever no number goes on behind it. -/
def WrittenAs (value : Json) (text : List Char) : Prop :=
  ∀ rest, Number.Ends rest → Spells (text ++ rest) (.value value) rest

end Json

namespace Spells

open Json (separated WrittenAs)

variable {before gap after rest : List Char} {write : Json → List Char}

theorem ends_of_skipSpace {c : Char} (found : skipSpace after = c :: rest)
    (plain : c.isDigit = false ∧ c ≠ '.' ∧ Number.isExponentMark c = false) :
    Number.Ends after := by
  cases after with
  | nil => exact Number.ends_nil
  | cons d after =>
    apply Number.ends_cons
    cases solid : isSpace d with
    | false =>
      rw [skipSpace_of_not_space after solid] at found
      rwa [(List.cons.inj found).1]
    | true => exact Number.solid_of_isSpace solid

theorem separated_items {items : List Json} (blank : ∀ c ∈ before, isSpace c)
    (each : ∀ item ∈ items, item.WrittenAs (write item)) (some : items ≠ [])
    (closed : skipSpace after = ']' :: rest) :
    Spells (separated (items.map fun item => before ++ write item) ++ after) (.items items)
      rest := by
  induction items with
  | nil => exact absurd rfl some
  | cons item others ih =>
    obtain ⟨first, further⟩ := List.forall_mem_cons.mp each
    have spelled : ∀ next, Number.Ends next →
        Spells (before ++ write item ++ next) (.value item) next := by
      intro next ends
      apply (first next ends).of_skipSpace
      rw [List.append_assoc, skipSpace_append blank]
    cases others with
    | nil =>
      rw [List.map_singleton, Json.separated_singleton]
      exact .lastItem (spelled after (ends_of_skipSpace closed (by decide))) closed
    | cons next others =>
      rw [List.map_cons, List.map_cons, Json.separated_cons_cons, List.append_assoc,
        List.cons_append]
      refine .nextItem (spelled _ (Number.ends_cons (by decide)))
        (skipSpace_of_not_space _ (by decide)) ?_
      exact ih further (List.cons_ne_nil _ _)

theorem separated_members {members : List (String × Json)} (blank : ∀ c ∈ before, isSpace c)
    (space : ∀ c ∈ gap, isSpace c)
    (each : ∀ member ∈ members, member.2.WrittenAs (write member.2)) (some : members ≠ [])
    (closed : skipSpace after = '}' :: rest) :
    Spells (separated (members.map fun member =>
      before ++ Json.quoted member.1 ++ ':' :: (gap ++ write member.2)) ++ after)
      (.members members) rest := by
  induction members with
  | nil => exact absurd rfl some
  | cons member others ih =>
    obtain ⟨name, value⟩ := member
    obtain ⟨first, further⟩ := List.forall_mem_cons.mp each
    have spelled : ∀ next, Number.Ends next →
        Spells (gap ++ write value ++ next) (.value value) next := by
      intro next ends
      apply (first next ends).of_skipSpace
      rw [List.append_assoc, skipSpace_append space]
    obtain ⟨characters, rfl⟩ : ∃ characters, name = String.ofList characters :=
      ⟨name.toList, String.ofList_toList.symm⟩
    have quote : ∀ next, skipSpace
        (before ++ Json.quoted (String.ofList characters) ++ ':' :: (gap ++ write value) ++ next) =
          '"' :: (characters.flatMap Quoted.encodeChar ++
            '"' :: ':' :: (gap ++ write value ++ next)) := by
      intro next
      rw [List.append_assoc, List.append_assoc, skipSpace_append blank]
      simp [Json.quoted, Quoted.encode,
        skipSpace_of_not_space _ (show isSpace '"' = false by decide)]
    have named : ∀ next, Quoted.scan 0 (characters.flatMap Quoted.encodeChar ++ '"' :: next) =
        ⟨.ok characters, .ok next⟩ := Quoted.scan_flatMap_encodeChar _
    have colon : ∀ next, skipSpace (':' :: next) = ':' :: next := fun next =>
      skipSpace_of_not_space next (by decide)
    cases others with
    | nil =>
      rw [List.map_singleton, Json.separated_singleton]
      exact .lastMember (quote after) (named _) (colon _)
        (spelled after (ends_of_skipSpace closed (by decide))) closed
    | cons next others =>
      rw [List.map_cons, List.map_cons, Json.separated_cons_cons, List.append_assoc,
        List.cons_append]
      exact .nextMember (quote _) (named _) (colon _)
        (spelled _ (Number.ends_cons (by decide))) (skipSpace_of_not_space _ (by decide))
        (ih further (List.cons_ne_nil _ _))

end Spells

namespace Json

variable {before gap tail : List Char} {write : Json → List Char}

theorem writtenAs_null : null.WrittenAs "null".toList := fun _ _ => .of_scalar Reading.scalar_null

theorem writtenAs_boolean (value : Bool) : (boolean value).WrittenAs (word value) := fun _ _ =>
  .of_scalar (Reading.scalar_word value)

theorem writtenAs_number {value : Number} (whole : value.IsWhole) :
    (number value).WrittenAs value.text := by
  cases value with
  | integer value => exact fun _ ends => .of_scalar (Reading.scalar_decimal whole ends)
  | real value => cases whole

theorem writtenAs_string (text : String) : (string text).WrittenAs (quoted text) := fun _ _ =>
  .of_scalar (Reading.scalar_quoted text)

theorem writtenAs_emptyArray : (array []).WrittenAs ['[', ']'] := fun rest _ =>
  .emptyArray (skipSpace_of_not_space (']' :: rest) (by decide))
    (skipSpace_of_not_space rest (by decide))

theorem writtenAs_emptyObject : (object []).WrittenAs ['{', '}'] := fun rest _ =>
  .emptyObject (skipSpace_of_not_space ('}' :: rest) (by decide))
    (skipSpace_of_not_space rest (by decide))

theorem enclosed_append (opening closing : Char) (inside tail rest : List Char) :
    opening :: inside ++ tail ++ [closing] ++ rest =
      opening :: (inside ++ (tail ++ closing :: rest)) := by
  simp

theorem writtenAs_array {items : List Json} (some : items ≠ [])
    (blank : ∀ c ∈ before, isSpace c) (space : ∀ c ∈ tail, isSpace c)
    (each : ∀ item ∈ items, item.WrittenAs (write item)) :
    (array items).WrittenAs
      ('[' :: separated (items.map fun item => before ++ write item) ++ tail ++ [']']) := by
  intro rest _
  have closed : skipSpace (tail ++ ']' :: rest) = ']' :: rest := by
    rw [skipSpace_append space, skipSpace_of_not_space rest (by decide)]
  rw [enclosed_append]
  exact .array (skipSpace_of_not_space _ (by decide))
    (Spells.separated_items blank each some closed)

theorem writtenAs_object {members : List (String × Json)} (some : members ≠ [])
    (blank : ∀ c ∈ before, isSpace c) (space : ∀ c ∈ gap, isSpace c) (last : ∀ c ∈ tail, isSpace c)
    (each : ∀ member ∈ members, member.2.WrittenAs (write member.2)) :
    (object members).WrittenAs
      ('{' :: separated (members.map fun member =>
        before ++ quoted member.1 ++ ':' :: (gap ++ write member.2)) ++ tail ++ ['}']) := by
  intro rest _
  have closed : skipSpace (tail ++ '}' :: rest) = '}' :: rest := by
    rw [skipSpace_append last, skipSpace_of_not_space rest (by decide)]
  rw [enclosed_append]
  exact .object (skipSpace_of_not_space _ (by decide))
    (Spells.separated_members blank space each some closed)

/-- What holds of all numbers of a value. -/
inductive NumbersAre (holds : Number → Prop) : Json → Prop where
  | null : NumbersAre holds null
  | boolean (value : Bool) : NumbersAre holds (boolean value)
  | number {value : Number} (here : holds value) : NumbersAre holds (number value)
  | string (value : String) : NumbersAre holds (string value)
  | array {items : List Json} (each : ∀ item ∈ items, item.NumbersAre holds) :
    NumbersAre holds (array items)
  | object {members : List (String × Json)}
    (each : ∀ member ∈ members, member.2.NumbersAre holds) : NumbersAre holds (object members)

theorem NumbersAre.mono {holds weaker : Number → Prop}
    (implied : ∀ number, holds number → weaker number) {value : Json}
    (numbers : value.NumbersAre holds) : value.NumbersAre weaker := by
  induction numbers with
  | null => exact .null
  | boolean value => exact .boolean value
  | number here => exact .number (implied _ here)
  | string value => exact .string value
  | array _ each => exact .array each
  | object _ each => exact .object each

/-- All numbers of the value are whole and of 64 bits. -/
abbrev Whole : Json → Prop := NumbersAre Number.IsWhole

theorem whole_int64 (value : Int64) : (integer value.toInt).Whole := by
  have low := value.minValue_le_toInt
  have high := value.toInt_le
  refine .number ⟨?_, ?_⟩
  · exact low
  · exact Int.le_trans high (by decide)

theorem compactItems_eq_separated (items : List Json) :
    compactItems items = separated (items.map fun item => [] ++ item.compact) :=
  eq_separated rfl (fun _ => rfl) (fun _ _ _ => rfl) items

theorem compactMembers_eq_separated (members : List (String × Json)) :
    compactMembers members =
      separated (members.map fun member =>
        [] ++ quoted member.1 ++ ':' :: ([] ++ member.2.compact)) :=
  eq_separated rfl (fun _ => rfl) (fun _ _ _ => by simp [compactMembers]) members

/-- Indented items stand each behind the white space that begins their line. -/
theorem prettyItems_eq_separated (level : Nat) (items : List Json) :
    prettyItems level items =
      separated (items.map fun item => newline level ++ prettyAt level item) :=
  eq_separated rfl (fun _ => rfl) (fun _ _ _ => rfl) items

theorem prettyMembers_eq_separated (level : Nat) (members : List (String × Json)) :
    prettyMembers level members =
      separated (members.map fun member =>
        newline level ++ quoted member.1 ++ ':' :: ([' '] ++ prettyAt level member.2)) :=
  eq_separated rfl (fun _ => rfl) (fun _ _ _ => by simp [prettyMembers]) members

theorem isSpace_of_mem_newline {level : Nat} {c : Char} (member : c ∈ newline level) :
    isSpace c := by
  rcases List.mem_cons.mp member with rfl | space
  · decide
  · rw [(List.mem_replicate.mp space).2]
    decide

namespace Whole

variable {value : Json}

theorem writtenAs_compact (whole : value.Whole) : value.WrittenAs value.compact := by
  induction whole with
  | null => exact writtenAs_null
  | boolean value =>
    rw [compact]
    exact writtenAs_boolean value
  | number whole =>
    rw [compact]
    exact writtenAs_number whole
  | string value =>
    rw [compact]
    exact writtenAs_string value
  | @array items _ each =>
    rw [compact, compactItems_eq_separated]
    cases items with
    | nil => exact writtenAs_emptyArray
    | cons item rest =>
      rw [← List.append_nil (_ :: separated _)]
      exact writtenAs_array (List.cons_ne_nil _ _) (by simp) (by simp) each
  | @object members _ each =>
    rw [compact, compactMembers_eq_separated]
    cases members with
    | nil => exact writtenAs_emptyObject
    | cons member rest =>
      rw [← List.append_nil (_ :: separated _)]
      exact writtenAs_object (List.cons_ne_nil _ _) (by simp) (by simp) (by simp) each

theorem writtenAs_prettyAt (whole : value.Whole) (level : Nat) :
    value.WrittenAs (prettyAt level value) := by
  induction whole generalizing level with
  | null => exact writtenAs_null
  | boolean value =>
    rw [prettyAt]
    exact writtenAs_boolean value
  | number whole =>
    rw [prettyAt]
    exact writtenAs_number whole
  | string value =>
    rw [prettyAt]
    exact writtenAs_string value
  | @array items _ each =>
    have blank : ∀ level, ∀ c ∈ newline level, isSpace c := fun _ _ => isSpace_of_mem_newline
    cases items with
    | nil => exact writtenAs_emptyArray
    | cons item rest =>
      rw [prettyAt, prettyItems_eq_separated]
      · exact writtenAs_array (List.cons_ne_nil _ _) (blank _) (blank _)
          fun item member => each item member _
      · simp
  | @object members _ each =>
    have blank : ∀ level, ∀ c ∈ newline level, isSpace c := fun _ _ => isSpace_of_mem_newline
    cases members with
    | nil => exact writtenAs_emptyObject
    | cons member rest =>
      rw [prettyAt, prettyMembers_eq_separated]
      · exact writtenAs_object (List.cons_ne_nil _ _) (blank _)
          (List.forall_mem_singleton.mpr (by decide)) (blank _)
          fun member among => each member among _
      · simp

end Whole

/-- A text that holds the value and ends in white space is read as the value. -/
theorem WrittenAs.ofText?_append {value : Json} {text : List Char} (written : value.WrittenAs text)
    {space : List Char} (blank : ∀ c ∈ space, isSpace c) :
    ofText? (text ++ space) = some value := by
  rw [ofText?_eq_some_iff_spells]
  refine ⟨space, written space ?_, ?_⟩
  · cases space with
    | nil => exact Number.ends_nil
    | cons c rest => exact Number.ends_cons (Number.solid_of_isSpace (blank c List.mem_cons_self))
  · rw [← List.append_nil space, skipSpace_append blank, skipSpace_nil]

theorem WrittenAs.ofText? {value : Json} {text : List Char} (written : value.WrittenAs text) :
    ofText? text = some value := by
  rw [← List.append_nil text]
  exact written.ofText?_append (by simp)

end Json

end TaxonomyQuery
