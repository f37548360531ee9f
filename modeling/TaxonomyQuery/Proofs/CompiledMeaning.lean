import TaxonomyQuery.Clause.Evaluate
import TaxonomyQuery.Filter.Meaning
import TaxonomyQuery.Proofs.Assembly
/-!
What a compiled filter accepts: the clauses of a level ask what its predicates ask, and groups keep
the meaning of the relation they were built for. So a group accepts the records that the filter,
read as a tree, holds of.
-/

set_option autoImplicit false

namespace TaxonomyQuery

/-! ### Groups as they are built -/

namespace Group

variable (source : TermSource)

@[simp] theorem toConjunct_accepts (group : Group) :
    group.toConjunct.accepts source = group.accepts source := by
  obtain ⟨_ | _ | _, items⟩ := group
  · exact (accepts_and source items).trans (accepts_unrelated source items).symm
  · rfl
  · rw [toConjunct, accepts_and]
    exact Bool.and_true _

theorem ofClauses_accepts (clauses : List Clause) :
    (ofClauses clauses).accepts source = clauses.all (·.accepts source) := by
  rw [ofClauses]
  split
  · simp [accepts_and, Function.comp_def]
  · simp [accepts_unrelated, Function.comp_def]

theorem ofChildren_and_accepts (children : List Group) :
    (ofChildren .and children).accepts source = (children.map (·.accepts source)).all id := by
  simp [ofChildren, accepts_and, Function.comp_def]

theorem ofChildren_or_accepts (children : List Group) :
    (ofChildren .or children).accepts source = (children.map (·.accepts source)).any id := by
  simp [ofChildren, accepts_or, Function.comp_def]

theorem prepend_accepts (clauses : List Clause) (group : Group) :
    (group.prepend clauses).accepts source =
      (clauses.all (·.accepts source) && group.accepts source) := by
  rw [prepend]
  split
  · simp_all
  · simp [accepts_and, Function.comp_def]

end Group

/-! ### The clauses of a level -/

section Clauses

variable (lookup : TermLookup) (source : TermSource)

/-- The comparisons of a set one by one. -/
theorem OperatorSet.all_operators {α : Type} (value : α → TermValue) (set : OperatorSet α)
    (test : Comparison × Terms → Bool) :
    (set.operators value).all test =
      (set.isIn.all (fun argument => test (.isIn, .many (argument.values.map value))) &&
        set.notIn.all (fun argument => test (.notIn, .many (argument.values.map value))) &&
        set.like.all (fun argument => test (.like, .one (value argument))) &&
        set.notLike.all (fun argument => test (.notLike, .one (value argument))) &&
        set.equal.all (fun argument => test (.equal, .one (value argument))) &&
        set.notEqual.all (fun argument => test (.notEqual, .one (value argument)))) := by
  have listed {β : Type} (argument : Option β) (entry : β → Comparison × Terms) :
      (argument.toList.map entry).all test = argument.all fun single => test (entry single) := by
    cases argument <;> simp
  simp only [operators, List.all_append, listed]

/-- The clauses of a set ask what the set asks, where a value is met if the field refers to a term
by it, and a pattern fits if one of the ids it stands for is there. -/
theorem OperatorSet.all_accepts {α : Type} (value : α → TermValue) (field : TermField)
    (taxonomy : Taxonomy) (set : OperatorSet α) :
    ((set.operators value).all fun entry =>
        ((Condition.mk taxonomy field entry.1 entry.2).toClause lookup).accepts source) =
      set.holds (fun argument => field.refers (source taxonomy) (value argument))
        fun pattern => ((value pattern).expand lookup taxonomy).any fun id =>
          (source taxonomy).any (·.1 = id) := by
  rw [all_operators, holds]
  simp [Condition.toClause, Clause.accepts, Comparison.isLike, Comparison.setOperator,
    TermField.refers_id, Function.comp_def]

theorem FieldPredicate.all_conditions (taxonomy : Taxonomy) (predicate : FieldPredicate)
    (test : Condition → Bool) :
    (predicate.conditions taxonomy).all test =
      (predicate.name.all (fun set => (set.operators .name).all fun entry =>
          test ⟨taxonomy, .name, entry.1, entry.2⟩) &&
        predicate.id.all fun set => (set.operators .id).all fun entry =>
          test ⟨taxonomy, .id, entry.1, entry.2⟩) := by
  obtain ⟨name, id⟩ := predicate
  cases name <;> cases id <;> simp [conditions, Function.comp_def]

theorem FieldPredicate.all_accepts (taxonomy : Taxonomy) (predicate : FieldPredicate) :
    ((predicate.conditions taxonomy).all fun condition =>
        (condition.toClause lookup).accepts source) =
      predicate.holds (lookup.test source) source taxonomy := by
  have fitsId (id : Int64) : ((TermValue.id id).expand lookup taxonomy).any
      (fun wanted => (source taxonomy).any (·.1 = wanted)) = (source taxonomy).any (·.1 = id) :=
    Bool.or_false _
  rw [all_conditions, holds]
  simp only [OperatorSet.all_accepts, fitsId]
  rfl

theorem Filter.clauses_all_accepts (filter : Filter) :
    (filter.clauses lookup).all (·.accepts source) =
      filter.predicatesHold (lookup.test source) source := by
  obtain ⟨tag, category, conjuncts, disjuncts⟩ := filter
  rw [predicatesHold, ← funext (FieldPredicate.all_accepts lookup source .tag),
    ← funext (FieldPredicate.all_accepts lookup source .category)]
  cases tag <;> cases category <;> simp [clauses, conditions, Function.comp_def]

end Clauses

/-! ### The whole tree -/

namespace Filter

/-- What the relation of a level asks of its children. -/
theorem relation_holds_eq {filter : Filter} (single : filter.hasConflict = false)
    (test : Filter → Bool) :
    (filter.conjuncts.all (·.all test) && filter.disjuncts.all (·.any test)) =
      match filter.joining? with
      | none => true
      | some .and => filter.children.all test
      | some .or => filter.children.any test := by
  obtain ⟨tag, category, conjuncts, disjuncts⟩ := filter
  cases conjuncts <;> cases disjuncts <;> simp_all [hasConflict, joining?, children]

/-- Without a second relation on any level a filter's group accepts what the filter asks for. Empty
relations need no care: no conjunct is missed and no disjunct is found. -/
theorem assemble_accepts (lookup : TermLookup) (source : TermSource) {depth : Nat} {filter : Filter}
    (single : ∀ level ∈ filter.walk depth, level.2.hasConflict = false) :
    (filter.assemble lookup).accepts source = filter.holds (lookup.test source) source := by
  induction filter generalizing depth with
  | level filter ih =>
    obtain ⟨singleHere, singleBelow⟩ := forall_mem_walk_iff.mp single
    have verdicts : (filter.children.map (·.assemble lookup)).map (·.accepts source) =
        filter.children.map (·.holds (lookup.test source) source) := by
      rw [List.map_map]
      exact List.map_congr_left fun child member => ih child member (singleBelow child member)
    rw [assemble_eq, join, holds_eq, Bool.and_assoc, relation_holds_eq singleHere,
      ← clauses_all_accepts]
    cases filter.joining? with
    | none => rw [Group.ofClauses_accepts, Bool.and_true]
    | some relation =>
      rw [Group.prepend_accepts]
      cases relation with
      | and =>
        rw [Group.ofChildren_and_accepts, verdicts, List.all_map]
        rfl
      | or =>
        rw [Group.ofChildren_or_accepts, verdicts, List.any_map]
        rfl

theorem hasConflict_of_refusal? {limit depth : Nat} {filter : Filter}
    (passed : filter.refusal? limit depth = none) :
    ∀ level ∈ filter.walk depth, level.2.hasConflict = false :=
  fun level member => (relations_of_refusal? passed depth level member).1

/-- Compiling keeps the meaning: a group accepts exactly the records that the filter it was compiled
from holds of, whatever terms they have and whatever ids the lookup finds. -/
theorem compileAt_preserves_meaning (lookup : TermLookup) (limit depth : Nat) (filter : Filter)
    (group : Group) (compiled : filter.compileAt lookup limit depth = .ok group)
    (source : TermSource) : group.accepts source = filter.holds (lookup.test source) source := by
  obtain ⟨passed, rfl⟩ := compileAt_eq_ok_iff.mp compiled
  exact assemble_accepts lookup source (hasConflict_of_refusal? passed)

theorem compileAt_preserves_meaning_of_alternatives :
    let lookup : TermLookup := fun _ pattern => if pattern = "ani" then [2, 5] else []
    let filter : Filter :=
      { tag := some { name := some { notEqual := some "big" } }
        disjuncts := some [
          { category := some { name := some { like := some "ani" } } },
          { disjuncts := some [{ tag := some { id := some { isIn := some (.one 4) } } }, {}] }] }
    let source : TermSource
      | .tag => [(4, "small")]
      | .category => [(7, "plant")]
    filter.compileAt lookup 2 0 = .ok (filter.assemble lookup) ∧
      (filter.assemble lookup).accepts source = filter.holds (lookup.test source) source :=
  ⟨rfl, compileAt_preserves_meaning _ 2 0 _ _ rfl _⟩

end Filter

end TaxonomyQuery
