import Mathlib
import TaxonomyQuery.Environment.File
/-!
Which environment files can be loaded to their end. A value that cannot be set holds the character
0, and no value does unless the file or a variable that it names has that character: whatever is
read of a file is taken from it, from a variable, or from an escape that stands for another one.
-/

set_option autoImplicit false

namespace TaxonomyQuery

/-- A text that can be the name or the value of a variable. -/
def Text.Settable (text : List Char) : Prop := '\x00' ∉ text

namespace Text.Settable

variable {text other : List Char}

theorem nil : Settable [] := List.not_mem_nil

theorem cons {c : Char} (settable : Settable text) (plain : c ≠ '\x00') : Settable (c :: text) :=
  List.not_mem_cons_of_ne_of_not_mem plain.symm settable

theorem append (settable : Settable text) (another : Settable other) : Settable (text ++ other) :=
  fun member => (List.mem_append.mp member).elim settable another

theorem of_subset (settable : Settable text) (subset : other ⊆ text) : Settable other :=
  fun member => settable (subset member)

theorem reverse (settable : Settable text) : Settable text.reverse :=
  fun member => settable (List.mem_reverse.mp member)

end Text.Settable

open Text (Settable)

/-! ### Variables -/

namespace Variables

/-- All names and values are of characters that they can be of. -/
def Settable (environment : Variables) : Prop := ∀ entry ∈ environment, Text.Settable (line entry)

theorem valueAfter?_subset {name line value : List Char}
    (found : valueAfter? name line = some value) : value ⊆ line := by
  fun_induction valueAfter? name line with
  | case1 rest =>
    obtain rfl := Option.some.inj found
    exact List.subset_cons_self _ _
  | case2 name c line ih => exact List.Subset.trans (ih found) (List.subset_cons_self _ _)
  | case3 => cases found
  | case4 => cases found

variable {environment : Variables} (settable : environment.Settable)

include settable

theorem Settable.get? {name value : String} (found : environment.get? name = some value) :
    Text.Settable value.toList := by
  rw [Variables.get?] at found
  split at found
  · cases found
  · obtain ⟨entry, member, read⟩ := List.exists_of_findSome?_eq_some found
    obtain ⟨content, after, rfl⟩ := Option.map_eq_some_iff.mp read
    rw [String.toList_ofList]
    exact (settable entry member).of_subset (valueAfter?_subset after)

/-- A variable can be set to such a value. -/
theorem Settable.setNew? {name value : String} (named : Text.Settable name.toList)
    (content : Text.Settable value.toList) :
    ∃ after, environment.setNew? name value = some after ∧ after.Settable := by
  rw [Variables.setNew?]
  cases environment.get? name with
  | some other => exact ⟨environment, rfl, settable⟩
  | none =>
    refine ⟨environment ++ [(name, value)], if_neg ?_, ?_⟩
    · rw [List.contains_iff_mem]
      exact content
    · intro entry member
      rcases List.mem_append.mp member with old | new
      · exact settable entry old
      · rw [List.mem_singleton.mp new]
        exact named.append (content.cons (by decide))

end Variables

namespace EnvironmentFile

/-! ### Entries -/

theorem flatten_lines (text : List Char) : (lines text).flatten = text := by
  fun_induction lines text with
  | case1 => rfl
  | case2 rest ih => rw [List.flatten_cons, ih]; rfl
  | case3 c rest notBreak none ih =>
    rw [none] at ih
    rw [← ih]
    rfl
  | case4 c rest notBreak line others some ih =>
    rw [some, List.flatten_cons] at ih
    rw [List.flatten_cons, List.cons_append, ih]

theorem subset_dropMark (text : List Char) : dropMark text ⊆ text := by
  fun_cases dropMark text
  · exact List.subset_cons_self _ _
  · exact List.Subset.refl _

theorem subset_scanLine (state : LineState) (line : List Char) : (scanLine state line).2 ⊆ line := by
  induction line generalizing state with
  | nil => exact List.Subset.refl _
  | cons c rest ih =>
    rw [scanLine]
    split
    · exact List.nil_subset _
    · exact List.cons_subset_cons c (ih _)

theorem subset_dropBreak (line : List Char) : dropBreak line ⊆ line := by
  intro c member
  rw [← List.mem_reverse]
  rw [dropBreak] at member
  split at member
  · rename_i rest backwards
    rw [backwards]
    exact List.mem_cons_of_mem _ (List.mem_cons_of_mem _ (List.mem_reverse.mp member))
  · rename_i rest _ backwards
    rw [backwards]
    exact List.mem_cons_of_mem _ (List.mem_reverse.mp member)
  · exact List.mem_reverse.mpr member

theorem subset_of_mem_cons {first entry whole : List Char} {others : List (Option (List Char))}
    (member : some entry ∈ some first :: others) (here : first ⊆ whole)
    (further : some entry ∈ others → entry ⊆ whole) : entry ⊆ whole := by
  rcases List.mem_cons.mp member with same | later
  · rw [Option.some.inj same]
    exact here
  · exact further later

/-- An entry is made of its lines. -/
theorem subset_of_mem_entries {state : LineState} {before : List Char} {read : List (List Char)}
    {entry : List Char} (member : some entry ∈ entries state before read) :
    entry ⊆ before ++ read.flatten := by
  fun_induction entries state before read with
  | case1 => cases member
  | case2 => simp at member
  | case3 state before line rest comment ih =>
    exact subset_of_mem_cons member (List.nil_subset _) fun later =>
      List.Subset.trans (ih later) (by simp [List.subset_append_of_subset_right])
  | case4 state before line rest plain kept complete ih =>
    rw [List.flatten_cons, ← List.append_assoc]
    refine subset_of_mem_cons member ?_ fun later =>
      List.Subset.trans (ih later) (List.subset_append_right _ _)
    exact List.Subset.trans (subset_dropBreak _) (List.subset_append_left _ _)
  | case5 state before line rest plain kept comment ih =>
    rw [List.flatten_cons, ← List.append_assoc]
    refine subset_of_mem_cons member ?_ fun later =>
      List.Subset.trans (ih later) (List.subset_append_right _ _)
    have shorter : kept ⊆ line := by
      have scanned := subset_scanLine state line
      rwa [comment] at scanned
    have part : before ++ kept ⊆ before ++ line := List.append_subset.mpr
      ⟨List.subset_append_left _ _, List.Subset.trans shorter (List.subset_append_right _ _)⟩
    exact List.Subset.trans part (List.subset_append_left _ _)
  | case6 state before line rest plain unfinished kept _ _ scanned ih =>
    rw [List.flatten_cons, ← List.append_assoc]
    exact ih member

theorem subset_trim (text : List Char) : Text.trim text ⊆ text := by
  intro c member
  have inner := List.mem_reverse.mp member
  have outer := List.mem_reverse.mp ((List.dropWhile_subset _) inner)
  exact (List.dropWhile_subset _) outer

theorem subset_of_readName? {text rest : List Char} {name : String}
    (read : readName? text = some (name, rest)) : name.toList ⊆ text ∧ rest ⊆ text := by
  rw [readName?.eq_def] at read
  split at read
  · cases read
  · split at read
    · obtain ⟨rfl, rfl⟩ := Prod.mk.inj (Option.some.inj read)
      rw [String.toList_ofList]
      exact ⟨List.takeWhile_subset _,
        List.Subset.trans (List.dropWhile_subset _) (List.dropWhile_subset _)⟩
    · cases read

/-- A value stands behind the first name, or behind the second one where the first is a word of its
own. -/
theorem splitEntry?_cases {text source : List Char} {name : String}
    (split : splitEntry? text = some (name, source)) :
    (∃ value, readName? text = some (name, '=' :: value) ∧ source = Text.trimLeft value) ∨
      ∃ rest value, readName? text = some ("export", rest) ∧
        readName? rest = some (name, '=' :: value) ∧ source = Text.trimLeft value := by
  unfold splitEntry? at split
  simp only [Option.bind_eq_bind, Option.bind_eq_some_iff] at split
  obtain ⟨⟨word, rest⟩, first, split⟩ := split
  split at split
  · grind
  · split at split
    · simp only [Option.bind_eq_some_iff] at split
      grind
    · cases split

theorem subset_of_splitEntry? {text source : List Char} {name : String}
    (split : splitEntry? text = some (name, source)) : name.toList ⊆ text ∧ source ⊆ text := by
  have trimmed (value : List Char) : Text.trimLeft value ⊆ '=' :: value :=
    List.Subset.trans (List.dropWhile_subset _) (List.subset_cons_self _ _)
  rcases splitEntry?_cases split with ⟨value, first, rfl⟩ | ⟨rest, value, first, second, rfl⟩
  · obtain ⟨named, inside⟩ := subset_of_readName? first
    exact ⟨named, List.Subset.trans (trimmed value) inside⟩
  · obtain ⟨_, behind⟩ := subset_of_readName? first
    obtain ⟨named, inside⟩ := subset_of_readName? second
    have within := List.Subset.trans (trimmed value) inside
    exact ⟨List.Subset.trans named behind, List.Subset.trans within behind⟩

/-! ### Values -/

section Values

variable {valueOf : List Char → List Char} (known : ∀ name, Settable (valueOf name))

theorem ne_zero_of_unescape? {c plain : Char} (found : ValueState.unescape? c = some plain) :
    plain ≠ '\x00' := by
  rw [ValueState.unescape?] at found
  split at found
  · obtain rfl := Option.some.inj found
    decide
  · split at found
    · rename_i among
      obtain rfl := Option.some.inj found
      rintro rfl
      exact absurd among (by decide)
    · cases found

namespace ValueState

variable {state next : ValueState} (settable : Settable state.backwards)

include settable

theorem settable_push {text : List Char} (pushed : Settable text) :
    Settable (state.push text).backwards :=
  pushed.reverse.append settable

include known

theorem settable_readName (naming : Naming) {c : Char} (plain : c ≠ '\x00') :
    Settable (state.readName valueOf naming c).backwards := by
  have one : Settable [c] := Settable.nil.cons plain
  cases naming with
  | bare name =>
    rw [readName]
    split
    · exact settable
    · split
      · exact settable
      · split
        · exact settable_push settable (known name)
        · exact settable_push settable ((known name).append one)
  | braced name =>
    rw [readName]
    split
    · exact settable_push settable (known name)
    · exact settable

/-- A character that is read adds itself, what it stands for or a value that is known. -/
theorem settable_step? {c : Char} (plain : c ≠ '\x00') (read : state.step? valueOf c = some next) :
    Settable next.backwards := by
  have one {c : Char} (plain : c ≠ '\x00') : Settable (state.push [c]).backwards :=
    settable_push settable (Settable.nil.cons plain)
  have added := one plain
  have named (naming : Naming) := settable_readName known settable naming plain
  rw [step?] at read
  split at read
  · split at read <;> cases read
    exact settable
  · split at read
    · obtain ⟨meant, found, rfl⟩ := Option.map_eq_some_iff.mp read
      exact one (ne_zero_of_unescape? found)
    · -- The character is dropped, added, or read as one of a name.
      repeat' split at read
      all_goals
        cases read
        first
        | exact settable
        | exact added
        | exact named _

theorem settable_finish? {value : List Char} (ended : state.finish? valueOf = some value) :
    Settable value := by
  have text : Settable state.text := Text.Settable.reverse settable
  rw [finish?] at ended
  split at ended
  any_goals cases ended
  · exact text.append (known _)
  · exact text

end ValueState

include known

theorem settable_readValue? {state : ValueState} {source value : List Char}
    (settable : Settable state.backwards) (plain : Settable source)
    (read : readValue? valueOf state source = some value) : Settable value := by
  induction source generalizing state with
  | nil => exact ValueState.settable_finish? known settable read
  | cons c rest ih =>
    have first : c ≠ '\x00' := fun same => plain (same ▸ List.mem_cons_self)
    rw [readValue?] at read
    split at read
    · exact ValueState.settable_finish? known settable read
    · split at read
      · rename_i next stepped
        exact ih (ValueState.settable_step? known settable first stepped)
          (plain.of_subset (List.subset_cons_self _ _)) read
      · cases read

theorem settable_readSource? {source : List Char} {value : String} (plain : Settable source)
    (read : readSource? valueOf source = some value) : Settable value.toList := by
  rw [readSource?] at read
  split at read
  · cases read
    exact Settable.nil
  · obtain ⟨content, inside, rfl⟩ := Option.map_eq_some_iff.mp read
    rw [String.toList_ofList]
    exact settable_readValue? known Settable.nil plain inside

end Values

/-! ### Whole files -/

theorem settable_valueOf {environment : Variables} (settable : environment.Settable)
    {earlier : List (String × String)} (read : ∀ entry ∈ earlier, Settable entry.2.toList)
    (name : List Char) : Settable (valueOf environment earlier name) := by
  rw [valueOf]
  split
  · rename_i value found
    exact settable.get? found
  · cases found : earlier.lookup (String.ofList name) with
    | none => exact Settable.nil
    | some value =>
      obtain ⟨before, after, split, _⟩ := List.lookup_eq_some_iff.mp found
      refine read (String.ofList name, value) ?_
      rw [split]
      exact List.mem_append_right before List.mem_cons_self

/-- What an entry sets can be set. -/
theorem settable_entry {environment : Variables} (settable : environment.Settable)
    {earlier : List (String × String)} (read : ∀ entry ∈ earlier, Settable entry.2.toList)
    {entry source : List Char} {name value : String} (plain : Settable entry)
    (split : splitEntry? (Text.trim entry) = some (name, source))
    (content : readSource? (valueOf environment earlier) source = some value) :
    ∃ after, environment.setNew? name value = some after ∧ after.Settable ∧
      Settable value.toList := by
  obtain ⟨named, inside⟩ := subset_of_splitEntry? split
  have trimmed := plain.of_subset (subset_trim entry)
  have read := settable_readSource? (settable_valueOf settable read) (trimmed.of_subset inside)
    content
  obtain ⟨after, set, sound⟩ := settable.setNew? (trimmed.of_subset named) read
  exact ⟨after, set, sound, read⟩

/-- Entries are loaded one after another: what one of them sets can be set, and so the next one
finds only such values. -/
theorem unsettable?_loadEntries {environment : Variables} (settable : environment.Settable)
    {earlier : List (String × String)} (read : ∀ entry ∈ earlier, Settable entry.2.toList)
    {further : List (Option (List Char))}
    (plain : ∀ entry, some entry ∈ further → Settable entry) :
    (loadEntries environment earlier further).unsettable? = none := by
  fun_induction loadEntries environment earlier further with
  | case1 => rfl
  | case2 => rfl
  | case3 environment earlier entry rest blank ih =>
    exact ih settable read fun entry member => plain entry (List.mem_cons_of_mem _ member)
  | case4 environment earlier entry rest _ comment ih =>
    exact ih settable read fun entry member => plain entry (List.mem_cons_of_mem _ member)
  | case5 => rfl
  | case6 => rfl
  | case7 environment earlier entry rest name source value content unset _ _ split =>
    obtain ⟨_, set, _⟩ := settable_entry settable read (plain entry List.mem_cons_self) split content
    rw [unset] at set
    cases set
  | case8 environment earlier entry rest name source value content after set _ _ split ih =>
    obtain ⟨_, other, sound, here⟩ :=
      settable_entry settable read (plain entry List.mem_cons_self) split content
    rw [set] at other
    cases other
    refine ih sound (List.forall_mem_cons.mpr ⟨here, read⟩) fun entry member => ?_
    exact plain entry (List.mem_cons_of_mem _ member)

/-- Where no variable that is set has the character 0, a file without it is loaded. -/
theorem unsettable?_load {environment : Variables} (settable : environment.Settable) {text : String}
    (plain : '\x00' ∉ text.toList) : (load environment text).unsettable? = none := by
  refine unsettable?_loadEntries settable (by simp) fun entry member => ?_
  have inside := subset_of_mem_entries member
  rw [List.nil_append, flatten_lines] at inside
  exact Settable.of_subset plain (List.Subset.trans inside (subset_dropMark _))

theorem mem_of_setNew?_eq_none {environment : Variables} {name value : String}
    (unset : environment.setNew? name value = none) : '\x00' ∈ value.toList := by
  rw [Variables.setNew?] at unset
  split at unset
  · cases unset
  · split at unset
    · rename_i among
      exact List.contains_iff_mem.mp among
    · cases unset

theorem mem_of_unsettable?_loadEntries {environment : Variables} {earlier : List (String × String)}
    {further : List (Option (List Char))} {name value : String}
    (found : (loadEntries environment earlier further).unsettable? = some (name, value)) :
    '\x00' ∈ value.toList := by
  fun_induction loadEntries environment earlier further with
  | case1 => cases found
  | case2 => cases found
  | case3 _ _ _ _ _ ih => exact ih found
  | case4 _ _ _ _ _ _ ih => exact ih found
  | case5 => cases found
  | case6 => cases found
  | case7 environment earlier entry rest name source value content unset =>
    cases found
    exact mem_of_setNew?_eq_none unset
  | case8 _ _ _ _ _ _ _ _ _ _ _ _ _ ih => exact ih found

/-- What cannot be set has that character. -/
theorem mem_of_unsettable?_load {environment : Variables} {text name value : String}
    (found : (load environment text).unsettable? = some (name, value)) : '\x00' ∈ value.toList :=
  mem_of_unsettable?_loadEntries found

end EnvironmentFile

end TaxonomyQuery
