import TaxonomyQuery.Proofs.Numerals
import TaxonomyQuery.Proofs.PairedClauses
/-!
How terms are written in a clause. A clause on ids sees the ids that its values stand for, and one
on names their texts. Groups accept the same records if their clauses see the same.
-/

set_option autoImplicit false

namespace TaxonomyQuery

/-! ### What a clause sees of its terms -/

namespace Terms

/-- The terms stand for the same ids, or have the same texts. Where ids are compared a value that
stands for none is passed over. -/
def AlikeFor (field : TermField) (terms other : Terms) : Prop :=
  match field with
  | .id => ∀ id, id ∈ terms.values.filterMap (·.id?) ↔ id ∈ other.values.filterMap (·.id?)
  | .name => ∀ name, name ∈ terms.values.map (·.text) ↔ name ∈ other.values.map (·.text)

/-- The other terms have the replacement where these have the value. -/
def Exchanges (value replacement : TermValue) (terms other : Terms) : Prop :=
  ∃ before after, terms.values = before ++ value :: after ∧
    other.values = before ++ replacement :: after

variable {terms other : Terms}

theorem any_refers_id (listed : List (Int64 × String)) (terms : Terms) :
    terms.values.any (TermField.id.refers listed) =
      (terms.values.filterMap (·.id?)).any fun id => listed.any (·.1 = id) := by
  rw [List.any_filterMap]
  congr 1
  funext value
  rw [TermField.refers]
  cases value.id? <;> rfl

theorem any_refers_name (listed : List (Int64 × String)) (terms : Terms) :
    terms.values.any (TermField.name.refers listed) =
      (terms.values.map (·.text)).any fun name => listed.any (·.2 = name) := by
  rw [List.any_map]
  rfl

theorem any_congr_of_mem {α : Type} {values others : List α}
    (same : ∀ value, value ∈ values ↔ value ∈ others) (test : α → Bool) :
    values.any test = others.any test := by
  apply Bool.eq_iff_iff.mpr
  simp only [List.any_eq_true, same]

theorem AlikeFor.any_refers {field : TermField} (alike : terms.AlikeFor field other)
    (listed : List (Int64 × String)) :
    other.values.any (field.refers listed) = terms.values.any (field.refers listed) := by
  cases field with
  | id =>
    rw [any_refers_id, any_refers_id]
    exact (any_congr_of_mem alike _).symm
  | name =>
    rw [any_refers_name, any_refers_name]
    exact (any_congr_of_mem alike _).symm

theorem AlikeFor.symm {field : TermField} (alike : terms.AlikeFor field other) :
    other.AlikeFor field terms := by
  cases field with
  | id => exact fun id => (alike id).symm
  | name => exact fun name => (alike name).symm

theorem alikeFor_of_mem (field : TermField)
    (same : ∀ value, value ∈ terms.values ↔ value ∈ other.values) :
    terms.AlikeFor field other := by
  cases field with
  | id =>
    intro id
    simp only [List.mem_filterMap, same]
  | name =>
    intro name
    simp only [List.mem_map, same]

theorem Exchanges.alikeFor_id {value replacement : TermValue}
    (exchanged : terms.Exchanges value replacement other)
    (same : value.id? = replacement.id?) : terms.AlikeFor .id other := by
  obtain ⟨before, after, here, there⟩ := exchanged
  intro id
  rw [here, there, List.filterMap_append, List.filterMap_append, List.filterMap_cons,
    List.filterMap_cons, same]

theorem Exchanges.alikeFor_name {value replacement : TermValue}
    (exchanged : terms.Exchanges value replacement other)
    (same : value.text = replacement.text) : terms.AlikeFor .name other := by
  obtain ⟨before, after, here, there⟩ := exchanged
  intro name
  rw [here, there, List.map_append, List.map_append, List.map_cons, List.map_cons, same]

end Terms

/-! ### Clauses and groups -/

/-- The other clause is this one with terms that it sees alike. -/
def Clause.Respelled (clause other : Clause) : Prop :=
  ∃ terms, other = { clause with terms := terms } ∧ clause.terms.AlikeFor clause.field terms

namespace Clause.Respelled

variable {clause other : Clause}

theorem symm (respelled : clause.Respelled other) : other.Respelled clause := by
  obtain ⟨terms, rfl, alike⟩ := respelled
  exact ⟨clause.terms, rfl, alike.symm⟩

theorem accepts_eq (respelled : clause.Respelled other) (source : TermSource) :
    other.accepts source = clause.accepts source := by
  obtain ⟨terms, rfl, alike⟩ := respelled
  rw [accepts, accepts, alike.any_refers]

end Clause.Respelled

/-- The other group is this one with the terms of some of its clauses, in whichever group inside it,
written in another way. -/
def Group.Respelled (group other : Group) : Prop :=
  group.toItem.Paired Clause.Respelled other.toItem

theorem Group.Respelled.accepts_eq {group other : Group} (respelled : group.Respelled other)
    (source : TermSource) : other.accepts source = group.accepts source := by
  have back : other.toItem.Paired Clause.Respelled group.toItem :=
    Item.Paired.symm (fun _ _ => Clause.Respelled.symm) respelled
  have kept : ∀ single replaced : Clause, single.Respelled replaced →
      single.accepts source → replaced.accepts source := by
    intro single replaced alike accepted
    rwa [alike.accepts_eq source]
  exact Bool.eq_iff_iff.mpr ⟨back.accepts_mono kept, Item.Paired.accepts_mono kept respelled⟩

namespace Terms

open Text (isBlank signs decimalNat)

/-- How terms are written does not count. A group accepts the same if the terms of its clauses are
replaced by any that stand for the same ids, or have the same texts. So a value may be written as a
list, and a list in another order or with repetitions; an id may be written as its numeral where ids
are compared, with white space around it, a plus sign or zeros in front; and a number as its numeral
where names are. -/
theorem spelling_does_not_count :
    (∀ (group other : Group) (source : TermSource), group.Respelled other →
      other.accepts source = group.accepts source) ∧
    (∀ field value, (one value).AlikeFor field (many [value])) ∧
    (∀ field (terms other : Terms), (∀ value, value ∈ terms.values ↔ value ∈ other.values) →
      terms.AlikeFor field other) ∧
    (∀ (terms other : Terms) (id : Int64) (sign : List Char) (zeros : Nat) (front back : String),
      sign ∈ signs id.toInt → (∀ c ∈ front.toList, isBlank c) → (∀ c ∈ back.toList, isBlank c) →
      let digits := List.replicate zeros '0' ++ decimalNat id.toInt.natAbs
      terms.Exchanges (.id id) (.name (front ++ String.ofList (sign ++ digits) ++ back)) other →
        terms.AlikeFor .id other) ∧
    ∀ (terms other : Terms) (id : Int64),
      terms.Exchanges (.id id) (.name (TermValue.id id).text) other →
        terms.AlikeFor .name other := by
  refine ⟨fun _ _ source respelled => respelled.accepts_eq source, ?single, ?listed, ?numeral,
    ?number⟩
  case single =>
    intro field value
    exact alikeFor_of_mem field fun _ => Iff.rfl
  case listed =>
    intro field terms other same
    exact alikeFor_of_mem field same
  case numeral =>
    intro terms other id sign zeros front back fitting before after digits exchanged
    have written := Text.isInteger_zeros fitting zeros
    rw [List.append_assoc] at written
    exact exchanged.alikeFor_id (TermValue.id?_name_padded before after written).symm
  case number =>
    intro terms other id exchanged
    exact exchanged.alikeFor_name rfl

/-- Two clauses are written in another way, one of them below two relations. -/
theorem spelling_does_not_count_of_numerals :
    let ids : Terms := .many [.id 7, .name "seven"]
    let numerals : Terms := .many [.name "\t+007\u2003", .name "seven"]
    let number : Terms := .one (.id (-12))
    let name : Terms := .one (.name "-12")
    let first (terms : Terms) : Item := .clause ⟨.category, .id, terms, .isIn⟩
    let second (terms : Terms) : Item := .clause ⟨.tag, .name, terms, .notIn⟩
    let groupOf (terms others : Terms) : Group :=
      ⟨some .or, [.group none [.group (some .and) [first terms]], second others]⟩
    let group := groupOf ids number
    let other := groupOf numerals name
    let source : TermSource := fun
      | .category => [(7, "animal")]
      | .tag => [(8, "-12")]
    (∀ value, value ∈ (many [.id 7, .id 7]).values ↔ value ∈ (one (.id 7)).values) ∧
      (many [.id 7, .id 7]).AlikeFor .id (one (.id 7)) ∧
      ids.Exchanges (.id 7) (.name "\t+007\u2003") numerals ∧
      number.Exchanges (.id (-12)) (.name "-12") name ∧
      group.Respelled other ∧ group.accepts source ∧
      other.accepts source = group.accepts source := by
  intro ids numerals number name first second groupOf group other source
  obtain ⟨accepts_eq, _, listed, numeral, text⟩ := spelling_does_not_count
  have same : ∀ value,
      value ∈ (many [.id 7, .id 7]).values ↔ value ∈ (one (.id 7)).values := by simp
  have exchanged : ids.Exchanges (.id 7) (.name "\t+007\u2003") numerals :=
    ⟨[], [.name "seven"], rfl, rfl⟩
  have renamed : number.Exchanges (.id (-12)) (.name "-12") name := ⟨[], [], rfl, rfl⟩
  have alike : ids.AlikeFor .id numerals :=
    numeral ids numerals 7 ['+'] 2 "\t" "\u2003" (by decide) (List.all_eq_true.mp (by decide))
      (List.all_eq_true.mp (by decide)) exchanged
  have alikeText : number.AlikeFor .name name := text number name (-12) renamed
  have respelled : group.Respelled other :=
    .group (.cons (.group (.cons (.group (.cons (.clause ⟨_, rfl, alike⟩) .nil)) .nil))
      (.cons (.clause ⟨_, rfl, alikeText⟩) .nil))
  exact ⟨same, listed .id _ _ same, exchanged, renamed, respelled, by decide,
    accepts_eq group other source respelled⟩

end Terms

end TaxonomyQuery
