import Mathlib.Data.List.Basic
import TaxonomyQuery.Proofs.Assembly
import TaxonomyQuery.Proofs.ClauseTree
/-!
The clauses that a filter asks for, read off the slots where something is written, and that
compiling neither loses nor repeats nor moves any of them, however it groups them.
-/

set_option autoImplicit false

namespace TaxonomyQuery

/-! ### Slots -/

/-- Where in a level of a filter an argument may stand. -/
structure Slot where
  taxonomy : Taxonomy
  field : TermField
  comparison : Comparison
deriving DecidableEq, Repr

def Comparison.all : List Comparison := [.isIn, .notIn, .like, .notLike, .equal, .notEqual]

/-- Tags come before categories, names before ids. -/
def Slot.all : List Slot :=
  [Taxonomy.tag, .category].flatMap fun taxonomy =>
    [TermField.name, .id].flatMap fun field =>
      Comparison.all.map fun comparison => ⟨taxonomy, field, comparison⟩

namespace OperatorSet

variable {α : Type}

def writes (set : OperatorSet α) : Comparison → Bool
  | .isIn => set.isIn.isSome
  | .notIn => set.notIn.isSome
  | .like => set.like.isSome
  | .notLike => set.notLike.isSome
  | .equal => set.equal.isSome
  | .notEqual => set.notEqual.isSome

/-- The clause that each comparison asks for, where `found` are the ids of the terms that a pattern
fits. A list has been written for the first two, if only as a single value. -/
def clause? (taxonomy : Taxonomy) (field : TermField) (value : α → TermValue)
    (found : α → List Int64) (set : OperatorSet α) : Comparison → Option Clause
  | .isIn => set.isIn.map fun list => ⟨taxonomy, field, .many (list.values.map value), .isIn⟩
  | .notIn => set.notIn.map fun list => ⟨taxonomy, field, .many (list.values.map value), .notIn⟩
  | .like => set.like.map fun pattern => ⟨taxonomy, .id, .ids (found pattern), .isIn⟩
  | .notLike => set.notLike.map fun pattern => ⟨taxonomy, .id, .ids (found pattern), .notIn⟩
  | .equal => set.equal.map fun single => ⟨taxonomy, field, .one (value single), .isIn⟩
  | .notEqual => set.notEqual.map fun single => ⟨taxonomy, field, .one (value single), .notIn⟩

end OperatorSet

namespace FieldPredicate

def writes (predicate : FieldPredicate) (field : TermField) (comparison : Comparison) : Bool :=
  match field with
  | .name => predicate.name.any (·.writes comparison)
  | .id => predicate.id.any (·.writes comparison)

/-- Names are patterns for the lookup. An id that is written as a pattern stands for itself. -/
def clause? (lookup : TermLookup) (taxonomy : Taxonomy) (predicate : FieldPredicate)
    (field : TermField) (comparison : Comparison) : Option Clause :=
  match field with
  | .name => predicate.name.bind fun set =>
      set.clause? taxonomy .name .name (lookup taxonomy) comparison
  | .id => predicate.id.bind fun set => set.clause? taxonomy .id .id (fun id => [id]) comparison

end FieldPredicate

namespace Filter

def predicate? (filter : Filter) : Taxonomy → Option FieldPredicate
  | .tag => filter.tag
  | .category => filter.category

/-- Something is written at the slot. -/
def writes (filter : Filter) (slot : Slot) : Bool :=
  (filter.predicate? slot.taxonomy).any (·.writes slot.field slot.comparison)

/-- The clause that the argument at a slot asks for, if there is one. -/
def clauseAt? (lookup : TermLookup) (filter : Filter) (slot : Slot) : Option Clause :=
  (filter.predicate? slot.taxonomy).bind fun predicate =>
    predicate.clause? lookup slot.taxonomy slot.field slot.comparison

end Filter

theorem Slot.filterMap_all {β : Type} (found : Slot → Option β) :
    Slot.all.filterMap found =
      [Taxonomy.tag, .category].flatMap fun taxonomy =>
        [TermField.name, .id].flatMap fun field =>
          Comparison.all.filterMap fun comparison => found ⟨taxonomy, field, comparison⟩ := by
  simp only [all, List.flatMap_cons, List.flatMap_nil, List.append_nil, List.filterMap_append,
    List.filterMap_map, Function.comp_def]

/-! ### The clauses of a level -/

theorem filterMap_bind {α β γ : Type} (written : Option β) (found : β → α → Option γ)
    (list : List α) :
    list.filterMap (fun entry => written.bind (found · entry)) =
      written.toList.flatMap fun value => list.filterMap (found value) := by
  cases written <;> simp

theorem OperatorSet.clauses_eq {α : Type} (lookup : TermLookup) (taxonomy : Taxonomy)
    (field : TermField) (value : α → TermValue) (found : α → List Int64)
    (expands : ∀ argument, (value argument).expand lookup taxonomy = found argument)
    (set : OperatorSet α) :
    ((set.operators value).map fun entry =>
        (Condition.mk taxonomy field entry.1 entry.2).toClause lookup) =
      Comparison.all.filterMap (set.clause? taxonomy field value found) := by
  simp only [List.filterMap_eq_flatMap_toList, Comparison.all, List.flatMap_cons, List.flatMap_nil,
    List.append_nil, operators, clause?, Option.toList_map, List.map_append, List.map_map,
    Function.comp_def, Condition.toClause, Comparison.isLike, Comparison.setOperator,
    Terms.values_one, expands, List.append_assoc]
  rfl

theorem FieldPredicate.clauses_eq (lookup : TermLookup) (taxonomy : Taxonomy)
    (predicate : FieldPredicate) :
    (predicate.conditions taxonomy).map (·.toClause lookup) =
      [TermField.name, .id].flatMap fun field =>
        Comparison.all.filterMap (predicate.clause? lookup taxonomy field) := by
  have names : Comparison.all.filterMap (predicate.clause? lookup taxonomy .name) = _ :=
    filterMap_bind predicate.name (·.clause? taxonomy .name .name (lookup taxonomy)) Comparison.all
  have ids : Comparison.all.filterMap (predicate.clause? lookup taxonomy .id) = _ :=
    filterMap_bind predicate.id (·.clause? taxonomy .id .id (fun id => [id])) Comparison.all
  simp only [List.flatMap_cons, List.flatMap_nil, List.append_nil, names, ids, conditions,
    List.map_append, List.map_flatMap, List.map_map, Function.comp_def,
    OperatorSet.clauses_eq lookup taxonomy .name .name (lookup taxonomy) fun _ => rfl,
    OperatorSet.clauses_eq lookup taxonomy .id .id (fun id => [id]) fun _ => rfl]

theorem Filter.clauses_eq (lookup : TermLookup) (filter : Filter) :
    filter.clauses lookup = Slot.all.filterMap (filter.clauseAt? lookup) := by
  have level (taxonomy : Taxonomy) (written : Option FieldPredicate) :
      (written.toList.flatMap (·.conditions taxonomy)).map (·.toClause lookup) =
        [TermField.name, .id].flatMap fun field =>
          Comparison.all.filterMap fun comparison =>
            written.bind (·.clause? lookup taxonomy field comparison) := by
    cases written with
    | none => rfl
    | some predicate =>
      rw [Option.toList_some, List.flatMap_singleton, FieldPredicate.clauses_eq]
      rfl
  rw [clauses, conditions, List.map_append, level, level, Slot.filterMap_all,
    @List.flatMap_cons Taxonomy, List.flatMap_singleton]
  rfl

theorem OperatorSet.isSome_clause? {α : Type} (taxonomy : Taxonomy) (field : TermField)
    (value : α → TermValue) (found : α → List Int64) (set : OperatorSet α)
    (comparison : Comparison) :
    (set.clause? taxonomy field value found comparison).isSome = set.writes comparison := by
  cases comparison <;> simp only [clause?, writes, Option.isSome_map]

theorem FieldPredicate.isSome_clause? (lookup : TermLookup) (taxonomy : Taxonomy)
    (predicate : FieldPredicate) (field : TermField) (comparison : Comparison) :
    (predicate.clause? lookup taxonomy field comparison).isSome =
      predicate.writes field comparison := by
  cases field <;>
    simp only [clause?, writes, Option.isSome_bind, OperatorSet.isSome_clause?]

theorem Filter.isSome_clauseAt? (lookup : TermLookup) (filter : Filter) (slot : Slot) :
    (filter.clauseAt? lookup slot).isSome = filter.writes slot := by
  simp only [clauseAt?, writes, Option.isSome_bind, FieldPredicate.isSome_clause?]

theorem Filter.length_clauses (lookup : TermLookup) (filter : Filter) :
    (filter.clauses lookup).length = (Slot.all.filter filter.writes).length := by
  rw [clauses_eq, List.length_filterMap_eq_countP, List.countP_eq_length_filter]
  simp only [isSome_clauseAt?]

/-! ### The clauses of a tree -/

namespace Group

theorem ofClauses_clauses (list : List Clause) : (ofClauses list).clauses = list := by
  rw [ofClauses, clauses_mk, List.flatMap_map]
  exact List.flatMap_singleton' list

theorem ofChildren_clauses (relation : Relation) (children : List Group) :
    (ofChildren relation children).clauses = children.flatMap (·.clauses) := by
  rw [ofChildren, clauses_mk, List.flatMap_map]
  simp only [toItem_clauses, toConjunct_clauses]

theorem prepend_clauses (list : List Clause) (group : Group) :
    (group.prepend list).clauses = list ++ group.clauses := by
  rw [prepend]
  split
  · rename_i none
    rw [List.isEmpty_iff.mp none, List.nil_append]
  · rw [clauses_mk, List.flatMap_append, List.flatMap_map, List.flatMap_singleton, toItem_clauses]
    exact congrArg (· ++ group.clauses) (List.flatMap_singleton' list)

end Group

namespace Filter

/-- However the groups below a level are wrapped, their clauses follow its own. -/
theorem join_clauses (lookup : TermLookup) (filter : Filter) (assembled : Filter → Group) :
    (filter.join lookup (filter.children.map assembled)).clauses =
      filter.clauses lookup ++ filter.children.flatMap fun child => (assembled child).clauses := by
  rw [join]
  cases joined : filter.joining? with
  | none =>
    rw [children_eq_nil_of_joining? joined, List.flatMap_nil, List.append_nil]
    exact Group.ofClauses_clauses _
  | some relation =>
    rw [Group.prepend_clauses, Group.ofChildren_clauses, List.flatMap_map]

theorem assemble_clauses (lookup : TermLookup) (depth : Nat) (filter : Filter) :
    (filter.assemble lookup).clauses =
      (filter.walk depth).flatMap fun level => level.2.clauses lookup := by
  induction filter generalizing depth with
  | level filter ih =>
    rw [assemble_eq, join_clauses, walk_eq, List.flatMap_cons, List.flatMap_assoc]
    exact congrArg (filter.clauses lookup ++ ·)
      (List.flatMap_congr fun child member => ih child member (depth + 1))

/-- A compiled filter lists one clause for each slot of each level at which something is written:
level after level as the walk goes, and in each level slot after slot. So it counts as many. -/
theorem compileAt_keeps_clauses (lookup : TermLookup) (limit depth : Nat) (filter : Filter)
    (group : Group) (compiled : filter.compileAt lookup limit depth = .ok group) :
    group.clauses = (filter.walk depth).flatMap (fun level =>
        Slot.all.filterMap (level.2.clauseAt? lookup)) ∧
      group.clauseCount =
        ((filter.walk depth).flatMap fun level => Slot.all.filter level.2.writes).length := by
  obtain ⟨_, rfl⟩ := compileAt_eq_ok_iff.mp compiled
  constructor
  · rw [assemble_clauses lookup depth]
    simp only [clauses_eq]
  · rw [← Group.length_clauses, assemble_clauses lookup depth]
    simp only [List.length_flatMap, length_clauses]

theorem compileAt_keeps_clauses_of_nested :
    let lookup : TermLookup := fun _ pattern => if pattern = "ani" then [2, 5] else []
    let filter : Filter :=
      { tag := some
          { name := some { isIn := some (.one "big"), notLike := some "ani" }
            id := some { like := some 7 } }
        disjuncts := some [
          { disjuncts := some [{ category := some { name := some { like := some "x" } } }, {}] },
          { category := some { id := some { notEqual := some 4 } } }] }
    let group := filter.assemble lookup
    filter.compileAt lookup 2 0 = .ok group ∧
      group.clauses = [⟨.tag, .name, .many [.name "big"], .isIn⟩,
        ⟨.tag, .id, .ids [2, 5], .notIn⟩, ⟨.tag, .id, .ids [7], .isIn⟩,
        ⟨.category, .id, .ids [], .isIn⟩, ⟨.category, .id, .one (.id 4), .notIn⟩] ∧
      group.clauses = (filter.walk 0).flatMap (fun level =>
        Slot.all.filterMap (level.2.clauseAt? lookup)) ∧
      group.clauseCount =
        ((filter.walk 0).flatMap fun level => Slot.all.filter level.2.writes).length :=
  ⟨rfl, rfl, compileAt_keeps_clauses _ 2 0 _ _ rfl⟩

end Filter

end TaxonomyQuery
