import TaxonomyQuery.Term.Basic
/-!
Clauses, and the groups they are gathered in: what a filter is compiled to.
-/

set_option autoImplicit false

namespace TaxonomyQuery

inductive Relation where
  | and
  | or
deriving DecidableEq, Repr

def Relation.name : Relation → String
  | .and => "AND"
  | .or => "OR"

inductive SetOperator where
  | isIn
  | notIn
deriving DecidableEq, Repr

def SetOperator.name : SetOperator → String
  | .isIn => "IN"
  | .notIn => "NOT IN"

/-- The column in which a clause finds the field it compares. -/
def TermField.column : TermField → String
  | .id => "term_id"
  | .name => "name"

/-- One condition on the terms of a taxonomy. -/
structure Clause where
  taxonomy : Taxonomy
  field : TermField
  terms : Terms
  operator : SetOperator
deriving DecidableEq, Repr

/-- An entry of a group: a clause, or a group in its turn. -/
inductive Item where
  | clause (clause : Clause)
  | group (relation : Option Relation) (items : List Item)
deriving Repr

/-- Clauses and groups under one relation. Without one they all have to hold. -/
structure Group where
  relation : Option Relation := none
  items : List Item := []
deriving Repr

namespace Item

mutual

def clauseCount : Item → Nat
  | .clause _ => 1
  | .group _ items => itemsClauseCount items

def itemsClauseCount : List Item → Nat
  | [] => 0
  | item :: rest => item.clauseCount + itemsClauseCount rest

end

mutual

/-- How many groups stand inside one another, beginning with the item. -/
def depth : Item → Nat
  | .clause _ => 0
  | .group _ items => itemsDepth items + 1

def itemsDepth : List Item → Nat
  | [] => 0
  | item :: rest => max item.depth (itemsDepth rest)

end

mutual

def clauses : Item → List Clause
  | .clause single => [single]
  | .group _ items => itemsClauses items

def itemsClauses : List Item → List Clause
  | [] => []
  | item :: rest => item.clauses ++ itemsClauses rest

end

end Item

namespace Group

/-- The group as an entry of another one. -/
def toItem (group : Group) : Item := .group group.relation group.items

def clauseCount (group : Group) : Nat := Item.itemsClauseCount group.items

/-- How many groups stand inside one another below this one. -/
def nestingDepth (group : Group) : Nat := Item.itemsDepth group.items

/-- All clauses, in the order they are listed in. -/
def clauses (group : Group) : List Clause := Item.itemsClauses group.items

/-- The group as one of several that stand under a relation. Its items all have to hold, so a group
of alternatives becomes the only item of the result. -/
def toConjunct (group : Group) : Group :=
  match group.relation with
  | some .or => ⟨some .and, [group.toItem]⟩
  | _ => ⟨some .and, group.items⟩

@[simp] theorem clauses_empty : ({} : Group).clauses = [] := rfl

@[simp] theorem toItem_clauses (group : Group) : group.toItem.clauses = group.clauses := rfl

end Group

end TaxonomyQuery
