import TaxonomyQuery.Proofs.Spelling
/-!
The reader against the spelling. What is read of a text is a front of it that is never empty, so the
reader has calls enough for all that is spelled. The value of a text is therefore the one that is
spelled in it.
-/

set_option autoImplicit false

namespace TaxonomyQuery

/-! ### How much is read -/

theorem Quoted.length_lt_of_scan {passed : Nat} {text rest : List Char}
    (read : (Quoted.scan passed text).after = .ok rest) : rest.length < text.length := by
  induction text generalizing passed with
  | nil => simp [Quoted.scan, Scan.stop] at read
  | cons c text ih =>
    rw [List.length_cons]
    cases passed with
    | succ passed => exact Nat.lt_succ_of_lt (ih read)
    | zero =>
      rw [Quoted.scan] at read
      split at read
      · cases read
        exact Nat.lt_succ_self _
      · split at read
        · split at read
          · simp [Scan.stop] at read
          · rw [Scan.push_after] at read
            exact Nat.lt_succ_of_lt (ih read)
        · split at read
          · simp [Scan.stop] at read
          · rw [Scan.push_after] at read
            exact Nat.lt_succ_of_lt (ih read)

theorem Reading.eq_append_of_readWord {word text rest : List Char}
    (read : Reading.readWord word text = .ok rest) : text = word ++ rest := by
  induction word generalizing text with
  | nil => exact Except.ok.inj read
  | cons expected word ih =>
    cases text with
    | nil => simp [Reading.readWord] at read
    | cons c text =>
      rw [Reading.readWord] at read
      split at read
      · rename_i same
        rw [same, ih read, List.cons_append]
      · cases read

namespace Number

theorem length_lt_of_scanDigits {text digits rest : List Char}
    (read : scanDigits text = .ok (digits, rest)) : rest.length < text.length := by
  unfold scanDigits at read
  split at read
  · cases read
  · rename_i c after
    split at read
    · rename_i digit
      cases read
      rw [List.dropWhile_cons, digit, if_pos rfl, List.length_cons]
      exact Nat.lt_succ_of_le (List.dropWhile_sublist _).length_le
    · cases read

theorem length_lt_of_scanWhole {text digits rest : List Char}
    (read : scanWhole text = .ok (digits, rest)) : rest.length < text.length := by
  unfold scanWhole at read
  split at read
  · split at read
    · cases read
    · cases read
      exact Nat.lt_succ_self _
  · exact length_lt_of_scanDigits read

theorem length_le_of_scanFraction {text digits rest : List Char}
    (read : scanFraction text = .ok (digits, rest)) : rest.length ≤ text.length := by
  unfold scanFraction at read
  split at read
  · exact Nat.le_succ_of_le (Nat.le_of_lt (length_lt_of_scanDigits read))
  · cases read
    exact Nat.le_refl _

theorem length_le_of_scanExponent {text rest : List Char} {exponent : Option (Bool × List Char)}
    (read : scanExponent text = .ok (exponent, rest)) : rest.length ≤ text.length := by
  unfold scanExponent at read
  split at read
  · cases read
    exact Nat.le_refl _
  · split at read
    · rename_i c after _
      obtain ⟨⟨digits, left⟩, scanned, same⟩ := Decoder.bind_eq_ok_iff.mp read
      cases same
      have shorter := length_lt_of_scanDigits scanned
      -- A sign only makes the text before the digits longer.
      split at shorter
      all_goals
        simp only [List.length_cons] at shorter ⊢
        omega
    · cases read
      exact Nat.le_refl _

theorem length_lt_of_scanUnsigned {negative : Bool} {text rest : List Char} {literal : Literal}
    (read : scanUnsigned negative text = .ok (literal, rest)) : rest.length < text.length := by
  simp only [scanUnsigned, Decoder.bind_eq_ok_iff] at read
  obtain ⟨⟨whole, afterWhole⟩, ofWhole, ⟨fraction, afterFraction⟩, ofFraction,
    ⟨exponent, afterExponent⟩, ofExponent, same⟩ := read
  cases same
  have first := length_lt_of_scanWhole ofWhole
  have second := length_le_of_scanFraction ofFraction
  have third := length_le_of_scanExponent ofExponent
  dsimp only at first second third ⊢
  omega

theorem length_lt_of_scan {text rest : List Char} {literal : Literal}
    (read : scan text = .ok (literal, rest)) : rest.length < text.length := by
  unfold scan at read
  split at read
  · exact Nat.lt_succ_of_lt (length_lt_of_scanUnsigned read)
  · exact length_lt_of_scanUnsigned read

end Number

namespace Reading

theorem word_eq_complete {type : Scalar} {document found : Document} {word text rest : List Char}
    (read : Reading.word type document word text = .complete found rest) :
    document = found ∧ readWord word text = .ok rest := by
  unfold Reading.word at read
  split at read
  · rename_i after matched
    simp only [complete, Reading.mk.injEq, Except.ok.injEq] at read
    exact ⟨read.1, read.2 ▸ matched⟩
  · simp [flawed, complete] at read

theorem length_le_of_word {type : Scalar} {document found : Document} {word text rest : List Char}
    (read : Reading.word type document word text = .complete found rest) :
    rest.length ≤ text.length := by
  rw [eq_append_of_readWord (word_eq_complete read).2, List.length_append]
  exact Nat.le_add_left _ _

theorem scalar_of_number {c : Char} {rest : List Char} (front : c = '-' ∨ c.isDigit) :
    scalar (c :: rest) = number (c :: rest) := by
  unfold scalar
  split
  · cases ‹c :: rest = []›
  all_goals
    obtain ⟨rfl, rfl⟩ := List.cons.inj ‹c :: rest = _›
  -- The letters and the quote begin no number.
  iterate 4 exact absurd front (by decide)
  rw [if_pos]
  simpa using front

/-- What a scalar begins with. -/
theorem front_of_scalar {c : Char} {text rest : List Char} {document : Document}
    (read : scalar (c :: text) = .complete document rest) :
    c = 'n' ∨ c = 't' ∨ c = 'f' ∨ c = '"' ∨ c = '-' ∨ c.isDigit := by
  unfold scalar at read
  split at read
  · cases ‹c :: text = []›
  all_goals
    obtain ⟨rfl, _⟩ := List.cons.inj ‹c :: text = _›
  iterate 4 simp
  split at read
  · rename_i front
    simp_all
  · simp [missing, complete] at read

theorem length_lt_of_scalar {text rest : List Char} {document : Document}
    (read : scalar text = .complete document rest) : rest.length < text.length := by
  unfold scalar at read
  split at read
  · simp [missing, complete] at read
  · exact Nat.lt_succ_of_le (length_le_of_word read)
  · exact Nat.lt_succ_of_le (length_le_of_word read)
  · exact Nat.lt_succ_of_le (length_le_of_word read)
  · rename_i quoted
    have shorter : ∀ after, (Quoted.scan 0 quoted).after = .ok after → after.length <
        ('"' :: quoted).length := fun after scanned =>
      Nat.lt_succ_of_lt (Quoted.length_lt_of_scan scanned)
    unfold Reading.string at read
    dsimp only at read
    split at read
    · rename_i ended
      simp only [complete, Reading.mk.injEq, Except.ok.injEq] at read
      exact shorter rest (read.2 ▸ ended)
    · rename_i ended
      simp only [complete, Reading.mk.injEq, Except.ok.injEq] at read
      exact shorter rest (read.2 ▸ ended)
    · simp [flawed, complete] at read
    · simp [flawed, complete] at read
  · split at read
    · unfold Reading.number at read
      split at read
      · simp [flawed, complete] at read
      · rename_i literal left scanned
        have shorter := Number.length_lt_of_scan scanned
        split at read
        all_goals
          simp only [complete, Reading.mk.injEq, Except.ok.injEq] at read
          rwa [← read.2]
    · simp [missing, complete] at read

end Reading

theorem length_lt_of_skipSpace {text rest : List Char} {c : Char}
    (found : skipSpace text = c :: rest) : rest.length < text.length := by
  have shorter := length_skipSpace_le text
  rw [found] at shorter
  exact shorter

namespace Spells

variable {text rest : List Char} {part : Part}

theorem length_lt (spells : Spells text part rest) : rest.length < text.length := by
  induction spells with
  | scalar first _ _ read =>
    exact Nat.lt_of_lt_of_le (Reading.length_lt_of_scalar read) (first ▸ length_skipSpace_le _)
  | emptyArray opened closed | emptyObject opened closed =>
    exact Nat.lt_trans (length_lt_of_skipSpace closed) (length_lt_of_skipSpace opened)
  | array opened _ within | object opened _ within =>
    exact Nat.lt_trans within (length_lt_of_skipSpace opened)
  | lastItem _ closed first => exact Nat.lt_trans (length_lt_of_skipSpace closed) first
  | nextItem _ comma _ first further =>
    exact Nat.lt_trans further (Nat.lt_trans (length_lt_of_skipSpace comma) first)
  | lastMember quote spelled colon _ closed first =>
    have named := Quoted.length_lt_of_scan (congrArg Quoted.Scan.after spelled)
    have outer := length_lt_of_skipSpace quote
    have inner := length_lt_of_skipSpace colon
    have last := length_lt_of_skipSpace closed
    omega
  | nextMember quote spelled colon _ comma _ first further =>
    have named := Quoted.length_lt_of_scan (congrArg Quoted.Scan.after spelled)
    have outer := length_lt_of_skipSpace quote
    have inner := length_lt_of_skipSpace colon
    have next := length_lt_of_skipSpace comma
    omega

/-- A part begins with a character that closes nothing. -/
theorem exists_head (spells : Spells text part rest) :
    ∃ c after, skipSpace text = c :: after ∧ c ≠ ']' ∧ c ≠ '}' := by
  induction spells with
  | scalar first _ _ read =>
    refine ⟨_, _, first, ?_, ?_⟩ <;> rintro rfl <;>
      simp [Reading.scalar, Reading.missing, Reading.complete] at read
  | emptyArray opened _ | array opened _ _ | emptyObject opened _ | object opened _ _ =>
    exact ⟨_, _, opened, by decide, by decide⟩
  | lastItem _ _ first => exact first
  | nextItem _ _ _ first _ => exact first
  | lastMember quote _ _ _ _ _ => exact ⟨_, _, quote, by decide, by decide⟩
  | nextMember quote _ _ _ _ _ _ _ => exact ⟨_, _, quote, by decide, by decide⟩

end Spells

/-! ### What is spelled is read -/

namespace Reading

variable {fuel : Nat} {text rest : List Char}

theorem bracket_of_close {inside : List Char} (closed : skipSpace inside = ']' :: rest) :
    bracket fuel inside = ⟨[], none, .ok rest⟩ := by
  rw [bracket, closed]
  rfl

theorem brace_of_close {inside : List Char} (closed : skipSpace inside = '}' :: rest) :
    brace fuel inside = ⟨[], none, .ok rest⟩ := by
  rw [brace, closed]
  rfl

theorem bracket_of_items {inside after : List Char} {listed : List Json}
    (within : Spells inside (.items listed) after) :
    bracket fuel inside = items fuel (skipSpace inside) := by
  obtain ⟨c, left, head, notBracket, -⟩ := within.exists_head
  rw [bracket, head]
  split <;> simp_all

theorem brace_of_members {inside after : List Char} {listed : List (String × Json)}
    (within : Spells inside (.members listed) after) :
    brace fuel inside = members fuel (skipSpace inside) := by
  obtain ⟨c, left, head, -, notBrace⟩ := within.exists_head
  rw [brace, head]
  split <;> simp_all

theorem items_of_close {document : Document} {after : List Char}
    (first : value fuel text = .complete document after)
    (closed : skipSpace after = ']' :: rest) :
    items (fuel + 1) text = ⟨[document], none, .ok rest⟩ := by
  rw [items, first]
  simp only [complete, closed]
  rfl

theorem items_of_comma {document : Document} {after more ended : List Char} {listed : List Json}
    (first : value fuel text = .complete document after)
    (comma : skipSpace after = ',' :: more) (further : Spells more (.items listed) ended) :
    items (fuel + 1) text = .push document (items fuel (skipSpace more)) := by
  obtain ⟨c, left, head, notBracket, -⟩ := further.exists_head
  rw [items, first]
  simp only [complete, comma, head]
  split <;> simp_all

theorem members_of_close {quoted calling content after : List Char} {document : Document}
    (spelled : Quoted.scan 0 quoted = ⟨.ok content, .ok calling⟩)
    (first : named fuel calling = .complete document after)
    (closed : skipSpace after = '}' :: rest) :
    members (fuel + 1) ('"' :: quoted) =
      ⟨[(.ok (String.ofList content), document)], none, .ok rest⟩ := by
  simp only [members, spelled, first, complete, closed]
  rfl

theorem members_of_comma {quoted calling content after more ended : List Char}
    {document : Document} {listed : List (String × Json)}
    (spelled : Quoted.scan 0 quoted = ⟨.ok content, .ok calling⟩)
    (first : named fuel calling = .complete document after)
    (comma : skipSpace after = ',' :: more) (further : Spells more (.members listed) ended) :
    members (fuel + 1) ('"' :: quoted) =
      .push (.ok (String.ofList content), document) (members fuel (skipSpace more)) := by
  obtain ⟨c, left, head, -, notBrace⟩ := further.exists_head
  simp only [members, spelled, first, complete, comma, head]
  split <;> simp_all [Except.map]

theorem named_of_colon {written : List Char} (colon : skipSpace text = ':' :: written) :
    named (fuel + 1) text = value fuel written := by
  simp only [named, colon]

/-- The reader takes the part from the text, with calls enough. -/
def Takes (text : List Char) (rest : List Char) : Part → Prop
  | .value json => ∀ fuel, 3 * text.length < fuel →
    value fuel text = .complete (.plain json) rest
  | .items listed => ∀ fuel, 3 * text.length + 1 < fuel →
    items fuel (skipSpace text) = ⟨listed.map .plain, none, .ok rest⟩
  | .members listed => ∀ fuel, 3 * text.length + 1 < fuel →
    members fuel (skipSpace text) = ⟨listed.map Document.plainMember, none, .ok rest⟩

end Reading

/-- Calls enough are one call, and enough for what is left. -/
theorem Reading.forall_lt_of_succ {bound : Nat} {holds : Nat → Prop}
    (next : ∀ fuel, bound ≤ fuel → holds (fuel + 1)) : ∀ fuel, bound < fuel → holds fuel := by
  intro fuel enough
  cases fuel with
  | zero => cases enough
  | succ fuel => exact next fuel (Nat.le_of_lt_succ enough)

theorem Spells.takes {text rest : List Char} {part : Part} (spells : Spells text part rest) :
    Reading.Takes text rest part := by
  induction spells with
  | scalar first notArray notObject read =>
    refine Reading.forall_lt_of_succ fun fuel _ => ?_
    rw [Reading.value_of_scalar first notArray notObject, read]
  | emptyArray opened closed =>
    refine Reading.forall_lt_of_succ fun fuel _ => ?_
    rw [Reading.value_of_bracket opened, Reading.bracket_of_close closed]
    rfl
  | emptyObject opened closed =>
    refine Reading.forall_lt_of_succ fun fuel _ => ?_
    rw [Reading.value_of_brace opened, Reading.brace_of_close closed]
    rfl
  | array opened within ih =>
    have shorter := length_lt_of_skipSpace opened
    refine Reading.forall_lt_of_succ fun fuel enough => ?_
    rw [Reading.value_of_bracket opened, Reading.bracket_of_items within, ih fuel (by omega),
      Reading.complete, Document.plain_array]
  | object opened within ih =>
    have shorter := length_lt_of_skipSpace opened
    refine Reading.forall_lt_of_succ fun fuel enough => ?_
    rw [Reading.value_of_brace opened, Reading.brace_of_members within, ih fuel (by omega),
      Reading.complete, Document.plain_object]
  | lastItem _ closed first =>
    refine Reading.forall_lt_of_succ fun fuel enough => ?_
    refine Reading.items_of_close ?_ closed
    rw [Reading.value_skipSpace, first fuel (by omega)]
  | @nextItem text after _ _ item _ spelled comma further first others =>
    have shorter := spelled.length_lt
    have next := length_lt_of_skipSpace comma
    refine Reading.forall_lt_of_succ fun fuel enough => ?_
    have read : Reading.value fuel (skipSpace text) = .complete (.plain item) after := by
      rw [Reading.value_skipSpace, first fuel (by omega)]
    rw [Reading.items_of_comma read comma further, others fuel (by omega)]
    rfl
  | lastMember quote spelled colon _ closed first =>
    have named := Quoted.length_lt_of_scan (congrArg Quoted.Scan.after spelled)
    have outer := length_lt_of_skipSpace quote
    have inner := length_lt_of_skipSpace colon
    refine Reading.forall_lt_of_succ fun fuel enough => ?_
    obtain ⟨left, rfl⟩ := Nat.exists_eq_add_one.mpr (show 0 < fuel by omega)
    rw [quote]
    refine Reading.members_of_close spelled ?_ closed
    rw [Reading.named_of_colon colon, first left (by omega)]
  | @nextMember _ _ calling _ after _ _ _ value _ quote spelled colon written comma further first
      others =>
    have named := Quoted.length_lt_of_scan (congrArg Quoted.Scan.after spelled)
    have outer := length_lt_of_skipSpace quote
    have inner := length_lt_of_skipSpace colon
    have shorter := written.length_lt
    have next := length_lt_of_skipSpace comma
    refine Reading.forall_lt_of_succ fun fuel enough => ?_
    obtain ⟨left, rfl⟩ := Nat.exists_eq_add_one.mpr (show 0 < fuel by omega)
    have read : Reading.named (left + 1) calling = .complete (.plain value) after := by
      rw [Reading.named_of_colon colon, first left (by omega)]
    rw [quote, Reading.members_of_comma spelled read comma further, others (left + 1) (by omega)]
    rfl

/-- The value a text holds is the one spelled in it up to white space. -/
theorem Json.ofText?_eq_some_iff_spells {text : List Char} {json : Json} :
    Json.ofText? text = some json ↔
      ∃ rest, Spells text (.value json) rest ∧ skipSpace rest = [] := by
  rw [Json.ofText?_eq_some_iff]
  constructor
  · rintro ⟨plain, rest, after, ended⟩
    have read : readDocument text = .complete (.plain json) rest := by
      rw [Reading.complete, ← plain, ← after]
    exact ⟨rest, (Reading.sound _).value read, ended⟩
  · rintro ⟨rest, spells, ended⟩
    have read : readDocument text = .complete (.plain json) rest :=
      spells.takes _ (by omega)
    exact ⟨congrArg Reading.document read, rest, congrArg Reading.after read, ended⟩

end TaxonomyQuery
