import TaxonomyQuery.Filter.Basic
/-!
What a filter asks of a record, read off the tree itself.
-/

set_option autoImplicit false

namespace TaxonomyQuery

/-- Whether a record has a term that a pattern fits. -/
abbrev PatternTest := Taxonomy → String → Bool

/-- A pattern fits the terms whose ids it stands for. -/
def TermLookup.test (lookup : TermLookup) (source : TermSource) : PatternTest :=
  fun taxonomy pattern => (lookup taxonomy pattern).any fun id =>
    (source taxonomy).any (·.1 = id)

/-- All comparisons that are written hold. A value is `met` if the record has its term, and a
pattern `fits` if the record has a term that it fits. -/
def OperatorSet.holds {α : Type} (met fits : α → Bool) (set : OperatorSet α) : Bool :=
  set.isIn.all (·.values.any met) && set.notIn.all (!·.values.any met) &&
    set.like.all fits && set.notLike.all (!fits ·) &&
    set.equal.all met && set.notEqual.all (!met ·)

/-- Names are sought among the names of the record's terms and ids among their ids. An id that is
written as a pattern fits itself alone. -/
def FieldPredicate.holds (fits : PatternTest) (source : TermSource) (taxonomy : Taxonomy)
    (predicate : FieldPredicate) : Bool :=
  let hasName (name : String) := (source taxonomy).any (·.2 = name)
  let hasId (id : Int64) := (source taxonomy).any (·.1 = id)
  predicate.name.all (·.holds hasName (fits taxonomy)) && predicate.id.all (·.holds hasId hasId)

namespace Filter

/-- The level's own predicates hold. -/
def predicatesHold (fits : PatternTest) (source : TermSource) (filter : Filter) : Bool :=
  filter.tag.all (·.holds fits source .tag) && filter.category.all (·.holds fits source .category)

mutual

/-- The level's own predicates hold, all of its conjuncts, and one of its disjuncts, as far as they
are written. -/
def holds (fits : PatternTest) (source : TermSource) : Filter → Bool
  | ⟨tag, category, conjuncts, disjuncts⟩ =>
    predicatesHold fits source ⟨tag, category, conjuncts, disjuncts⟩ &&
      conjunctsHold fits source conjuncts && disjunctsHold fits source disjuncts

def conjunctsHold (fits : PatternTest) (source : TermSource) : Option (List Filter) → Bool
  | none => true
  | some filters => allHold fits source filters

def disjunctsHold (fits : PatternTest) (source : TermSource) : Option (List Filter) → Bool
  | none => true
  | some filters => anyHolds fits source filters

def allHold (fits : PatternTest) (source : TermSource) : List Filter → Bool
  | [] => true
  | filter :: rest => filter.holds fits source && allHold fits source rest

def anyHolds (fits : PatternTest) (source : TermSource) : List Filter → Bool
  | [] => false
  | filter :: rest => filter.holds fits source || anyHolds fits source rest

end

theorem allHold_eq_all (fits : PatternTest) (source : TermSource) (filters : List Filter) :
    allHold fits source filters = filters.all (·.holds fits source) := by
  induction filters with
  | nil => rfl
  | cons filter rest ih => simp only [allHold, List.all_cons, ih]

theorem anyHolds_eq_any (fits : PatternTest) (source : TermSource) (filters : List Filter) :
    anyHolds fits source filters = filters.any (·.holds fits source) := by
  induction filters with
  | nil => rfl
  | cons filter rest ih => simp only [anyHolds, List.any_cons, ih]

theorem holds_eq (fits : PatternTest) (source : TermSource) (filter : Filter) :
    filter.holds fits source = (filter.predicatesHold fits source &&
      filter.conjuncts.all (·.all (·.holds fits source)) &&
      filter.disjuncts.all (·.any (·.holds fits source))) := by
  obtain ⟨tag, category, conjuncts, disjuncts⟩ := filter
  cases conjuncts <;> cases disjuncts <;>
    simp only [holds, conjunctsHold, disjunctsHold, allHold_eq_all, anyHolds_eq_any, Option.all]

end Filter

end TaxonomyQuery
