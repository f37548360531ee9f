import TaxonomyQuery.Clause.Basic
import TaxonomyQuery.Json.DecodeError
/-!
Filters: trees of conditions on taxonomies, joined by relations.
-/

set_option autoImplicit false

namespace TaxonomyQuery

/-- How a condition compares terms with its argument. -/
inductive Comparison where
  | isIn
  | notIn
  | like
  | notLike
  | equal
  | notEqual
deriving DecidableEq, Repr

namespace Comparison

def name : Comparison → String
  | .isIn => "in"
  | .notIn => "notIn"
  | .like => "like"
  | .notLike => "notLike"
  | .equal => "eq"
  | .notEqual => "notEq"

def setOperator : Comparison → SetOperator
  | .isIn | .like | .equal => .isIn
  | .notIn | .notLike | .notEqual => .notIn

/-- The argument is a pattern, which stands for the ids of the terms that it fits. -/
def isLike : Comparison → Bool
  | .like | .notLike => true
  | _ => false

end Comparison

inductive OneOrMany (α : Type) where
  | one (value : α)
  | many (values : List α)
deriving DecidableEq, Repr

def OneOrMany.values {α : Type} : OneOrMany α → List α
  | .one value => [value]
  | .many values => values

/-- The comparisons asked for on one field. -/
structure OperatorSet (α : Type) where
  isIn : Option (OneOrMany α) := none
  notIn : Option (OneOrMany α) := none
  like : Option α := none
  notLike : Option α := none
  equal : Option α := none
  notEqual : Option α := none
deriving DecidableEq, Repr

/-- The comparisons that are there, each with its argument. Those that take a list have one, even
where a single value was written. -/
def OperatorSet.operators {α : Type} (value : α → TermValue) (set : OperatorSet α) :
    List (Comparison × Terms) :=
  let many (comparison : Comparison) (argument : Option (OneOrMany α)) :=
    argument.toList.map fun values => (comparison, Terms.many (values.values.map value))
  let one (comparison : Comparison) (argument : Option α) :=
    argument.toList.map fun single => (comparison, Terms.one (value single))
  many .isIn set.isIn ++ many .notIn set.notIn ++ one .like set.like ++
    one .notLike set.notLike ++ one .equal set.equal ++ one .notEqual set.notEqual

structure FieldPredicate where
  name : Option (OperatorSet String) := none
  id : Option (OperatorSet Int64) := none
deriving DecidableEq, Repr

/-- One condition of a filter, before it is compiled. -/
structure Condition where
  taxonomy : Taxonomy
  field : TermField
  comparison : Comparison
  terms : Terms
deriving DecidableEq, Repr

def FieldPredicate.conditions (predicate : FieldPredicate) (taxonomy : Taxonomy) :
    List Condition :=
  let ofField (field : TermField) (operators : List (Comparison × Terms)) :=
    operators.map fun entry => Condition.mk taxonomy field entry.1 entry.2
  predicate.name.toList.flatMap (fun set => ofField .name (set.operators .name)) ++
    predicate.id.toList.flatMap (fun set => ofField .id (set.operators .id))

/-- One level of a filter: its own conditions, and filters that all have to hold (`conjuncts`) or
of which one has to (`disjuncts`). -/
structure Filter where
  tag : Option FieldPredicate := none
  category : Option FieldPredicate := none
  conjuncts : Option (List Filter) := none
  disjuncts : Option (List Filter) := none
deriving Repr

inductive FilterError where
  | depthExceeded (limit : Nat)
  | conflictingRelations
  | emptyRelation
  | invalidInput (error : DecodeError)
deriving DecidableEq, Repr

namespace FilterError

def message : FilterError → String
  | .depthExceeded limit =>
    "The Filter's relation allowable depth nesting has been exceeded. " ++
      "Please reduce to allowable (" ++ String.ofList (Text.decimalNat limit) ++
      ") depth to proceed"
  | .conflictingRelations =>
    "A Filter can only accept one of an 'and' or 'or' child relation as an immediate child."
  | .emptyRelation =>
    "The Filter relation array specified has no children. Please remove the relation key or add " ++
      "one or more appropriate objects to proceed."
  | .invalidInput error => "invalid filter: " ++ error.message

/-- What a client is told the error belongs to. -/
def category : String := "filter-query"

end FilterError

namespace Filter

/-- The conditions of the level itself. -/
def conditions (filter : Filter) : List Condition :=
  filter.tag.toList.flatMap (·.conditions .tag) ++
    filter.category.toList.flatMap (·.conditions .category)

/-- The relation of a level to the filters below it. There can be only one, and it needs a
filter. -/
def relation (filter : Filter) : Except FilterError (Option (Relation × List Filter)) :=
  match filter.conjuncts, filter.disjuncts with
  | some _, some _ => .error .conflictingRelations
  | some [], none | none, some [] => .error .emptyRelation
  | some filters, none => .ok (some (.and, filters))
  | none, some filters => .ok (some (.or, filters))
  | none, none => .ok none

/-- Neither conditions nor a relation have been written, not even empty ones. -/
def isEmpty (filter : Filter) : Bool :=
  filter.tag.isNone && filter.category.isNone && filter.conjuncts.isNone &&
    filter.disjuncts.isNone

end Filter

end TaxonomyQuery
