import TaxonomyQuery.Filter.Basic
/-!
Compiling a filter to a group of clauses. Faults are found on the way down, a level's own before
those of the levels below it.
-/

set_option autoImplicit false

namespace TaxonomyQuery

/-- The levels that a filter may have below its root where no other limit is set. -/
def defaultDepthLimit : Nat := 10

namespace TermValue

/-- The ids that a pattern stands for. An id stands for itself. -/
def expand (lookup : TermLookup) (taxonomy : Taxonomy) : TermValue → List Int64
  | .id value => [value]
  | .name pattern => lookup taxonomy pattern

end TermValue

/-- A condition as a clause. A pattern becomes a condition on ids. -/
def Condition.toClause (lookup : TermLookup) (condition : Condition) : Clause :=
  let operator := condition.comparison.setOperator
  if condition.comparison.isLike then
    let ids := condition.terms.values.flatMap (·.expand lookup condition.taxonomy)
    ⟨condition.taxonomy, .id, .ids ids, operator⟩
  else
    ⟨condition.taxonomy, condition.field, condition.terms, operator⟩

namespace Group

/-- Clauses that all have to hold; a relation is named where there are several. -/
def ofClauses (clauses : List Clause) : Group :=
  ⟨if 1 < clauses.length then some .and else none, clauses.map .clause⟩

/-- The groups of the levels below, under their relation. -/
def ofChildren (relation : Relation) (children : List Group) : Group :=
  ⟨some relation, children.map (·.toConjunct.toItem)⟩

/-- Clauses of a level that have to hold along with its relation. -/
def prepend (clauses : List Clause) (group : Group) : Group :=
  if clauses.isEmpty then group else ⟨some .and, clauses.map .clause ++ [group.toItem]⟩

end Group

namespace Filter

def clauses (lookup : TermLookup) (filter : Filter) : List Clause :=
  filter.conditions.map (·.toClause lookup)

/-- The depth right below a level. Depths are numbers of 64 bits: behind the greatest one they begin
again at 0. -/
def deeper (depth : Nat) : Nat := (depth + 1) % (Text.greatestNatural + 1)

theorem deeper_of_lt {depth : Nat} (small : depth < Text.greatestNatural) :
    deeper depth = depth + 1 :=
  Nat.mod_eq_of_lt (Nat.succ_lt_succ small)

theorem deeper_le (depth : Nat) : deeper depth ≤ Text.greatestNatural :=
  Nat.le_of_lt_succ (Nat.mod_lt _ (Nat.succ_pos _))

mutual

/-- Compiles a filter that stands `depth` levels below the root, of no more than `limit`. -/
def compileAt (lookup : TermLookup) (limit depth : Nat) : Filter → Except FilterError Group
  | ⟨tag, category, conjuncts, disjuncts⟩ =>
    if limit < depth then .error (.depthExceeded limit)
    else
      match relation ⟨tag, category, conjuncts, disjuncts⟩ with
      | .error error => .error error
      | .ok none => .ok (.ofClauses (clauses lookup ⟨tag, category, conjuncts, disjuncts⟩))
      | .ok (some (.and, _)) =>
        (compileBelow lookup limit (deeper depth) conjuncts).map fun children =>
          (Group.ofChildren .and children).prepend
            (clauses lookup ⟨tag, category, conjuncts, disjuncts⟩)
      | .ok (some (.or, _)) =>
        (compileBelow lookup limit (deeper depth) disjuncts).map fun children =>
          (Group.ofChildren .or children).prepend
            (clauses lookup ⟨tag, category, conjuncts, disjuncts⟩)

def compileBelow (lookup : TermLookup) (limit depth : Nat) :
    Option (List Filter) → Except FilterError (List Group)
  | none => .ok []
  | some filters => compileAll lookup limit depth filters

def compileAll (lookup : TermLookup) (limit depth : Nat) :
    List Filter → Except FilterError (List Group)
  | [] => .ok []
  | filter :: rest =>
    (compileAt lookup limit depth filter).bind fun first =>
      (compileAll lookup limit depth rest).map (first :: ·)

end

def compile (lookup : TermLookup) (limit : Nat) (filter : Filter) : Except FilterError Group :=
  filter.compileAt lookup limit 0

end Filter

end TaxonomyQuery
