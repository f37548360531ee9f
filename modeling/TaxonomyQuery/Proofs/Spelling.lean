import TaxonomyQuery.Proofs.UniformDecoding
/-!
How values are spelled in texts. A text spells a value in front of what follows it by rules on the
characters alone, with the white space that may stand between them, and all that the reader takes
from a text is spelled in it.
-/

set_option autoImplicit false

namespace TaxonomyQuery

@[simp] theorem skipSpace_nil : skipSpace [] = [] := rfl

theorem skipSpace_of_not_space {c : Char} (rest : List Char) (solid : isSpace c = false) :
    skipSpace (c :: rest) = c :: rest := by
  rw [skipSpace, List.dropWhile_cons, solid]
  rfl

theorem skipSpace_append {spaces : List Char} (blank : ∀ c ∈ spaces, isSpace c) (rest : List Char) :
    skipSpace (spaces ++ rest) = skipSpace rest :=
  List.dropWhile_append_of_pos blank

theorem isSpace_of_skipSpace {text rest : List Char} {c : Char}
    (found : skipSpace text = c :: rest) : isSpace c = false := by
  have head := List.head?_dropWhile_not isSpace text
  rw [← skipSpace, found] at head
  simpa using head

@[simp] theorem skipSpace_skipSpace (text : List Char) :
    skipSpace (skipSpace text) = skipSpace text := by
  cases found : skipSpace text with
  | nil => rfl
  | cons c rest => exact skipSpace_of_not_space rest (isSpace_of_skipSpace found)

theorem length_skipSpace_le (text : List Char) : (skipSpace text).length ≤ text.length :=
  (List.dropWhile_sublist _).length_le

/-- A value, the items of an array or the members of an object, each with at least one. -/
inductive Part where
  | value (value : Json)
  | items (items : List Json)
  | members (members : List (String × Json))

/-- The first text begins with the part, spelled in some way, and the second one follows. What
closes an array or an object belongs to its items or members. -/
inductive Spells : List Char → Part → List Char → Prop where
  | scalar {text after rest : List Char} {c : Char} {value : Json}
      (first : skipSpace text = c :: after) (notArray : c ≠ '[') (notObject : c ≠ '{')
      (read : Reading.scalar (c :: after) = .complete (.plain value) rest) :
      Spells text (.value value) rest
  | emptyArray {text inside rest : List Char} (opened : skipSpace text = '[' :: inside)
      (closed : skipSpace inside = ']' :: rest) : Spells text (.value (.array [])) rest
  | array {text inside rest : List Char} {listed : List Json}
      (opened : skipSpace text = '[' :: inside) (within : Spells inside (.items listed) rest) :
      Spells text (.value (.array listed)) rest
  | emptyObject {text inside rest : List Char} (opened : skipSpace text = '{' :: inside)
      (closed : skipSpace inside = '}' :: rest) : Spells text (.value (.object [])) rest
  | object {text inside rest : List Char} {listed : List (String × Json)}
      (opened : skipSpace text = '{' :: inside) (within : Spells inside (.members listed) rest) :
      Spells text (.value (.object listed)) rest
  | lastItem {text after rest : List Char} {item : Json} (first : Spells text (.value item) after)
      (closed : skipSpace after = ']' :: rest) : Spells text (.items [item]) rest
  | nextItem {text after more rest : List Char} {item : Json} {others : List Json}
      (first : Spells text (.value item) after) (comma : skipSpace after = ',' :: more)
      (further : Spells more (.items others) rest) : Spells text (.items (item :: others)) rest
  | lastMember {text quoted named written after rest name : List Char} {value : Json}
      (quote : skipSpace text = '"' :: quoted)
      (spelled : Quoted.scan 0 quoted = ⟨.ok name, .ok named⟩)
      (colon : skipSpace named = ':' :: written) (first : Spells written (.value value) after)
      (closed : skipSpace after = '}' :: rest) :
      Spells text (.members [(String.ofList name, value)]) rest
  | nextMember {text quoted named written after more rest name : List Char} {value : Json}
      {others : List (String × Json)} (quote : skipSpace text = '"' :: quoted)
      (spelled : Quoted.scan 0 quoted = ⟨.ok name, .ok named⟩)
      (colon : skipSpace named = ':' :: written) (first : Spells written (.value value) after)
      (comma : skipSpace after = ',' :: more) (further : Spells more (.members others) rest) :
      Spells text (.members ((String.ofList name, value) :: others)) rest

/-! ### What is read is spelled -/

namespace Reading

/-- What follows an opening bracket. -/
def bracket (fuel : Nat) (text : List Char) : Run Document :=
  match skipSpace text with
  | [] => .halt [] (.plain .endInList)
  | ']' :: rest => .close [] rest
  | rest => items fuel rest

/-- What follows an opening brace. -/
def brace (fuel : Nat) (text : List Char) : Run (Name × Document) :=
  match skipSpace text with
  | [] => .halt [] (.plain .endInObject)
  | '}' :: rest => .close [] rest
  | rest => members fuel rest

variable {fuel : Nat} {text rest : List Char}

theorem value_of_bracket {inside : List Char} (opened : skipSpace text = '[' :: inside) :
    value (fuel + 1) text =
      ⟨.array (bracket fuel inside).entries (bracket fuel inside).cut,
        (bracket fuel inside).after⟩ := by
  rw [value, opened]
  rfl

theorem value_of_brace {inside : List Char} (opened : skipSpace text = '{' :: inside) :
    value (fuel + 1) text =
      ⟨.object (brace fuel inside).entries (brace fuel inside).cut,
        (brace fuel inside).after⟩ := by
  rw [value, opened]
  rfl

theorem value_of_scalar {c : Char} {after : List Char} (first : skipSpace text = c :: after)
    (notArray : c ≠ '[') (notObject : c ≠ '{') :
    value (fuel + 1) text = scalar (c :: after) := by
  rw [value, first]
  split <;> simp_all

/-- White space in front makes no difference. -/
theorem value_skipSpace (fuel : Nat) (text : List Char) :
    value fuel (skipSpace text) = value fuel text := by
  cases fuel with
  | zero => rfl
  | succ fuel => simp only [value, skipSpace_skipSpace]

theorem value_of_end (ended : skipSpace text = []) : value (fuel + 1) text = scalar [] := by
  rw [value, ended]

/-- A run to its end closes at once or goes on to the items. -/
theorem bracket_eq_close {inside : List Char} {entries : List Document}
    (read : bracket fuel inside = ⟨entries, none, .ok rest⟩) :
    entries = [] ∧ skipSpace inside = ']' :: rest ∨
      items fuel (skipSpace inside) = ⟨entries, none, .ok rest⟩ := by
  unfold bracket at read
  split at read
  · simp [Run.halt] at read
  · rename_i closed
    simp only [Run.close, Run.mk.injEq, Except.ok.injEq] at read
    exact .inl ⟨read.1.symm, read.2.2 ▸ closed⟩
  · exact .inr read

theorem brace_eq_close {inside : List Char} {entries : List (Name × Document)}
    (read : brace fuel inside = ⟨entries, none, .ok rest⟩) :
    entries = [] ∧ skipSpace inside = '}' :: rest ∨
      members fuel (skipSpace inside) = ⟨entries, none, .ok rest⟩ := by
  unfold brace at read
  split at read
  · simp [Run.halt] at read
  · rename_i closed
    simp only [Run.close, Run.mk.injEq, Except.ok.injEq] at read
    exact .inl ⟨read.1.symm, read.2.2 ▸ closed⟩
  · exact .inr read

theorem Run.push_eq_close {α : Type} {entry : α} {run : Run α} {entries : List α} :
    run.push entry = ⟨entries, none, .ok rest⟩ ↔
      ∃ others, entries = entry :: others ∧ run = ⟨others, none, .ok rest⟩ := by
  obtain ⟨others, cut, after⟩ := run
  simp only [push, mk.injEq]
  constructor
  · rintro ⟨same, uncut, ended⟩
    exact ⟨others, same.symm, rfl, uncut, ended⟩
  · rintro ⟨_, same, rfl, uncut, ended⟩
    exact ⟨same.symm, uncut, ended⟩

theorem items_eq_close {entries : List Document}
    (read : items (fuel + 1) text = ⟨entries, none, .ok rest⟩) :
    ∃ document after, value fuel text = .complete document after ∧
      (entries = [document] ∧ skipSpace after = ']' :: rest ∨
        ∃ more others, skipSpace after = ',' :: more ∧ entries = document :: others ∧
          items fuel (skipSpace more) = ⟨others, none, .ok rest⟩) := by
  rw [items] at read
  split at read
  · simp [Run.halt] at read
  · rename_i after complete
    refine ⟨(value fuel text).document, after, by rw [Reading.complete, ← complete], ?_⟩
    split at read
    · simp [Run.halt] at read
    · rename_i closed
      simp only [Run.close, Run.mk.injEq, Except.ok.injEq] at read
      exact .inl ⟨read.1.symm, read.2.2 ▸ closed⟩
    · rename_i more comma
      split at read
      · simp [Run.halt] at read
      · simp [Run.halt] at read
      · obtain ⟨others, same, further⟩ := Run.push_eq_close.mp read
        exact .inr ⟨more, others, comma, same, further⟩
    · simp [Run.halt] at read

theorem named_eq_complete {document : Document}
    (read : named (fuel + 1) text = .complete document rest) :
    ∃ written, skipSpace text = ':' :: written ∧ value fuel written = .complete document rest := by
  rw [named] at read
  split at read
  · simp [missing, complete] at read
  · rename_i written colon
    exact ⟨written, colon, read⟩
  · simp [missing, complete] at read

theorem members_eq_close {entries : List (Name × Document)}
    (read : members (fuel + 1) text = ⟨entries, none, .ok rest⟩) :
    ∃ quoted content calling document after, text = '"' :: quoted ∧
      Quoted.scan 0 quoted = ⟨content, .ok calling⟩ ∧
      named fuel calling = .complete document after ∧
      (entries = [(content.map String.ofList, document)] ∧ skipSpace after = '}' :: rest ∨
        ∃ more others, skipSpace after = ',' :: more ∧
          entries = (content.map String.ofList, document) :: others ∧
          members fuel (skipSpace more) = ⟨others, none, .ok rest⟩) := by
  unfold members at read
  split at read
  · rename_i quoted
    dsimp only at read
    split at read
    · simp [Run.halt] at read
    · rename_i calling scanned
      split at read
      · simp [Run.halt] at read
      · rename_i after complete
        refine ⟨quoted, (Quoted.scan 0 quoted).content, calling, (named fuel calling).document,
          after, rfl, by rw [← scanned], by rw [Reading.complete, ← complete], ?_⟩
        split at read
        · simp [Run.halt] at read
        · rename_i closed
          simp only [Run.close, Run.mk.injEq, Except.ok.injEq] at read
          exact .inl ⟨read.1.symm, read.2.2 ▸ closed⟩
        · rename_i more comma
          split at read
          · simp [Run.halt] at read
          · simp [Run.halt] at read
          · obtain ⟨others, same, further⟩ := Run.push_eq_close.mp read
            exact .inr ⟨more, others, comma, same, further⟩
        · simp [Run.halt] at read
  · simp [Run.halt] at read

theorem plain_eq_array {json : Json} {items : List Document} {cut : Option Halt}
    (same : .array items cut = Document.plain json) :
    ∃ listed, json = .array listed ∧ items = listed.map .plain ∧ cut = none := by
  cases json with
  | array listed =>
    rw [Document.plain_array, Document.array.injEq] at same
    exact ⟨listed, rfl, same⟩
  | _ => simp at same

theorem plain_eq_object {json : Json} {members : List (Name × Document)} {cut : Option Halt}
    (same : .object members cut = Document.plain json) :
    ∃ listed, json = .object listed ∧ members = listed.map Document.plainMember ∧ cut = none := by
  cases json with
  | object listed =>
    rw [Document.plain_object, Document.object.injEq] at same
    exact ⟨listed, rfl, same⟩
  | _ => simp at same

/-- What the reader takes from a text with so many calls is spelled in it. -/
structure Sound (fuel : Nat) : Prop where
  value : ∀ {text rest : List Char} {json : Json},
    Reading.value fuel text = .complete (.plain json) rest → Spells text (.value json) rest
  items : ∀ {text rest : List Char} {listed : List Json},
    Reading.items fuel (skipSpace text) = ⟨listed.map .plain, none, .ok rest⟩ →
      Spells text (.items listed) rest
  named : ∀ {text rest : List Char} {json : Json},
    Reading.named fuel text = .complete (.plain json) rest →
      ∃ written, skipSpace text = ':' :: written ∧ Spells written (.value json) rest
  members : ∀ {text rest : List Char} {listed : List (String × Json)},
    Reading.members fuel (skipSpace text) = ⟨listed.map Document.plainMember, none, .ok rest⟩ →
      Spells text (.members listed) rest

namespace Sound

theorem zero : Sound 0 where
  value read := by simp [Reading.value, Reading.missing, Reading.complete] at read
  items read := by simp [Reading.items, Run.halt] at read
  named read := by simp [Reading.named, Reading.missing, Reading.complete] at read
  members read := by simp [Reading.members, Run.halt] at read

variable (sound : Sound fuel)

include sound

theorem value_succ {json : Json}
    (read : Reading.value (fuel + 1) text = .complete (.plain json) rest) :
    Spells text (.value json) rest := by
  cases first : skipSpace text with
  | nil =>
    rw [value_of_end first] at read
    simp [Reading.scalar, Reading.missing, Reading.complete] at read
  | cons c after =>
    by_cases bracketed : c = '['
    · subst bracketed
      rw [value_of_bracket first, Reading.complete, Reading.mk.injEq] at read
      obtain ⟨document, ended⟩ := read
      obtain ⟨listed, rfl, entries, uncut⟩ := plain_eq_array document
      have run : bracket fuel after = ⟨listed.map .plain, none, .ok rest⟩ := by
        rw [← entries, ← uncut, ← ended]
      rcases bracket_eq_close run with ⟨none, closed⟩ | within
      · rw [List.map_eq_nil_iff.mp none]
        exact .emptyArray first closed
      · exact .array first (sound.items within)
    · by_cases braced : c = '{'
      · subst braced
        rw [value_of_brace first, Reading.complete, Reading.mk.injEq] at read
        obtain ⟨document, ended⟩ := read
        obtain ⟨listed, rfl, entries, uncut⟩ := plain_eq_object document
        have run : brace fuel after = ⟨listed.map Document.plainMember, none, .ok rest⟩ := by
          rw [← entries, ← uncut, ← ended]
        rcases brace_eq_close run with ⟨none, closed⟩ | within
        · rw [List.map_eq_nil_iff.mp none]
          exact .emptyObject first closed
        · exact .object first (sound.members within)
      · rw [value_of_scalar first bracketed braced] at read
        exact .scalar first bracketed braced read

theorem items_succ {listed : List Json}
    (read : Reading.items (fuel + 1) (skipSpace text) = ⟨listed.map .plain, none, .ok rest⟩) :
    Spells text (.items listed) rest := by
  obtain ⟨document, after, first, run⟩ := items_eq_close read
  rw [value_skipSpace] at first
  rcases run with ⟨single, closed⟩ | ⟨more, others, comma, several, further⟩
  · obtain ⟨item, rfl, rfl⟩ := List.map_eq_singleton_iff.mp single
    exact .lastItem (sound.value first) closed
  · obtain ⟨item, remaining, rfl, rfl, rfl⟩ := List.map_eq_cons_iff.mp several
    exact .nextItem (sound.value first) comma (sound.items further)

theorem named_succ {json : Json}
    (read : Reading.named (fuel + 1) text = .complete (.plain json) rest) :
    ∃ written, skipSpace text = ':' :: written ∧ Spells written (.value json) rest := by
  obtain ⟨written, colon, first⟩ := named_eq_complete read
  exact ⟨written, colon, sound.value first⟩

theorem members_succ {listed : List (String × Json)}
    (read : Reading.members (fuel + 1) (skipSpace text) =
      ⟨listed.map Document.plainMember, none, .ok rest⟩) :
    Spells text (.members listed) rest := by
  obtain ⟨quoted, content, calling, document, after, quote, scanned, first, run⟩ :=
    members_eq_close read
  rcases run with ⟨single, closed⟩ | ⟨more, others, comma, several, further⟩
  · obtain ⟨⟨name, json⟩, rfl, same⟩ := List.map_eq_singleton_iff.mp single
    obtain ⟨named, rfl⟩ := Prod.ext_iff.mp same
    obtain ⟨characters, rfl, rfl⟩ := Decoder.map_eq_ok_iff.mp named.symm
    obtain ⟨written, colon, spells⟩ := sound.named first
    exact .lastMember quote scanned colon spells closed
  · obtain ⟨⟨name, json⟩, remaining, rfl, same, rfl⟩ := List.map_eq_cons_iff.mp several
    obtain ⟨named, rfl⟩ := Prod.ext_iff.mp same
    obtain ⟨characters, rfl, rfl⟩ := Decoder.map_eq_ok_iff.mp named.symm
    obtain ⟨written, colon, spells⟩ := sound.named first
    exact .nextMember quote scanned colon spells comma (sound.members further)

end Sound

theorem sound (fuel : Nat) : Sound fuel := by
  induction fuel with
  | zero => exact .zero
  | succ fuel ih => exact ⟨ih.value_succ, ih.items_succ, ih.named_succ, ih.members_succ⟩

end Reading

end TaxonomyQuery
