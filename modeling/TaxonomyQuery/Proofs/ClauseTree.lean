import TaxonomyQuery.Clause.Basic
/-!
Clause trees: induction on items, and the clauses and the depth of a group by those of its items.
-/

set_option autoImplicit false

namespace TaxonomyQuery

namespace Item

/-- What holds of clauses, and of a group whenever it holds of its items, holds of every item. -/
@[elab_as_elim, induction_eliminator]
theorem induct {motive : Item → Prop} (clause : ∀ single, motive (.clause single))
    (group : ∀ relation items, (∀ item ∈ items, motive item) → motive (.group relation items))
    (item : Item) : motive item := by
  refine @Item.rec motive (fun items => ∀ item ∈ items, motive item) clause group ?_ ?_ item
  · intro item member
    cases member
  · intro first rest ofFirst ofRest item member
    rcases List.mem_cons.mp member with rfl | among
    · exact ofFirst
    · exact ofRest item among

theorem itemsDepth_le_iff {bound : Nat} {items : List Item} :
    itemsDepth items ≤ bound ↔ ∀ item ∈ items, item.depth ≤ bound := by
  induction items with
  | nil => simp [itemsDepth]
  | cons item rest ih => rw [itemsDepth, Nat.max_le, ih, List.forall_mem_cons]

theorem depth_clause_le (single : Clause) (bound : Nat) : (clause single).depth ≤ bound := by
  unfold depth
  exact Nat.zero_le _

theorem depth_group_le_iff {bound : Nat} {relation : Option Relation} {items : List Item} :
    (group relation items).depth ≤ bound ↔
      0 < bound ∧ ∀ item ∈ items, item.depth ≤ bound - 1 := by
  rw [depth, ← itemsDepth_le_iff]
  omega

theorem itemsClauses_eq_flatMap (items : List Item) :
    itemsClauses items = items.flatMap (·.clauses) := by
  induction items with
  | nil => rfl
  | cons item rest ih => simp only [itemsClauses, List.flatMap_cons, ih]

@[simp] theorem clauses_clause (single : Clause) : (clause single).clauses = [single] := by
  simp only [clauses]

theorem clauses_group (relation : Option Relation) (items : List Item) :
    (group relation items).clauses = items.flatMap (·.clauses) := by
  rw [clauses, itemsClauses_eq_flatMap]

theorem itemsClauseCount_eq_length {items : List Item}
    (each : ∀ item ∈ items, item.clauseCount = item.clauses.length) :
    itemsClauseCount items = (itemsClauses items).length := by
  induction items with
  | nil => rfl
  | cons item rest ih =>
    obtain ⟨first, others⟩ := List.forall_mem_cons.mp each
    rw [itemsClauseCount, itemsClauses, List.length_append, first, ih others]

theorem clauseCount_eq_length (item : Item) : item.clauseCount = item.clauses.length := by
  induction item with
  | clause single => rw [clauseCount, clauses_clause, List.length_singleton]
  | group relation items ih => rw [clauseCount, clauses, itemsClauseCount_eq_length ih]

end Item

namespace Group

theorem clauses_mk (relation : Option Relation) (items : List Item) :
    clauses ⟨relation, items⟩ = items.flatMap (·.clauses) :=
  Item.itemsClauses_eq_flatMap items

theorem length_clauses (group : Group) : group.clauses.length = group.clauseCount :=
  (Item.clauseCount_eq_length group.toItem).symm

@[simp] theorem toConjunct_clauses (group : Group) : group.toConjunct.clauses = group.clauses := by
  obtain ⟨_ | _ | _, items⟩ := group
  · rfl
  · rfl
  · rw [toConjunct, clauses_mk, List.flatMap_singleton, toItem_clauses]

theorem nestingDepth_le_iff {group : Group} {bound : Nat} :
    group.nestingDepth ≤ bound ↔ ∀ item ∈ group.items, item.depth ≤ bound :=
  Item.itemsDepth_le_iff

theorem depth_toItem (group : Group) : group.toItem.depth = group.nestingDepth + 1 := by
  rw [toItem, Item.depth, nestingDepth]

/-- Alternatives are put into a group of their own, and other groups only change their relation. -/
theorem nestingDepth_toConjunct (group : Group) :
    group.toConjunct.nestingDepth =
      if group.relation = some .or then group.nestingDepth + 1 else group.nestingDepth := by
  obtain ⟨_ | _ | _, items⟩ := group
  · rfl
  · rfl
  · rw [toConjunct, nestingDepth, Item.itemsDepth, Item.itemsDepth, depth_toItem]
    rfl

end Group

end TaxonomyQuery
