import TaxonomyQuery.Proofs.Evaluation
import TaxonomyQuery.Proofs.FirstFault
import TaxonomyQuery.Proofs.WrittenClauses
/-!
The shape of compiled groups: which relation each of them has, where alternatives stand and how many
there are, what the clauses compare, and how deep groups stand inside one another.
-/

set_option autoImplicit false

namespace TaxonomyQuery

/-! ### Relations -/

namespace Item

/-- Every group of the item names its relation. -/
def Related (item : Item) : Prop := ∀ part ∈ item.groups, part.relation.isSome

theorem related_clause (single : Clause) : (clause single).Related := by simp [Related]

theorem related_group_iff {relation : Option Relation} {items : List Item} :
    (group relation items).Related ↔ relation.isSome ∧ ∀ item ∈ items, item.Related := by
  simp only [Related, groups_group, List.forall_mem_cons, List.forall_mem_flatMap]

end Item

namespace Group

theorem and_of_mem_ofChildren (relation : Relation) (children : List Group) :
    ∀ item ∈ (ofChildren relation children).items, ∃ items, item = .group (some .and) items := by
  rw [ofChildren, List.forall_mem_map]
  intro child _
  obtain ⟨_ | _ | _, items⟩ := child
  · exact ⟨items, rfl⟩
  · exact ⟨items, rfl⟩
  · exact ⟨[toItem ⟨some .or, items⟩], rfl⟩

theorem toConjunct_related {group : Group} (below : ∀ item ∈ group.items, item.Related) :
    group.toConjunct.toItem.Related := by
  obtain ⟨_ | _ | _, items⟩ := group
  · exact Item.related_group_iff.mpr ⟨rfl, below⟩
  · exact Item.related_group_iff.mpr ⟨rfl, below⟩
  · have alternatives : (toItem ⟨some .or, items⟩).Related :=
      Item.related_group_iff.mpr ⟨rfl, below⟩
    exact Item.related_group_iff.mpr ⟨rfl, List.forall_mem_singleton.mpr alternatives⟩

theorem related_of_mem_ofClauses (clauses : List Clause) :
    ∀ item ∈ (ofClauses clauses).items, item.Related := by
  rw [ofClauses, List.forall_mem_map]
  exact fun single _ => Item.related_clause single

theorem ofChildren_related {relation : Relation} {children : List Group}
    (each : ∀ child ∈ children, ∀ item ∈ child.items, item.Related) :
    (ofChildren relation children).toItem.Related := by
  refine Item.related_group_iff.mpr ⟨rfl, ?_⟩
  rw [ofChildren, List.forall_mem_map]
  exact fun child among => toConjunct_related (each child among)

theorem related_of_mem_prepend {group : Group} (related : group.toItem.Related)
    (clauses : List Clause) : ∀ item ∈ (group.prepend clauses).items, item.Related := by
  rw [prepend]
  split
  · exact (Item.related_group_iff.mp related).2
  · rw [List.forall_mem_append, List.forall_mem_map, List.forall_mem_singleton]
    exact ⟨fun single _ => Item.related_clause single, related⟩

theorem prepend_relation (clauses : List Clause) (group : Group) :
    (group.prepend clauses).relation =
      if clauses.isEmpty then group.relation else some .and := by
  rw [prepend]
  split <;> rfl

end Group

namespace Filter

/-- Only at the root a relation may be missing. -/
theorem related_of_mem_assemble (lookup : TermLookup) (filter : Filter) :
    ∀ item ∈ (filter.assemble lookup).items, item.Related := by
  induction filter with
  | level filter ih =>
    rw [assemble_eq, join]
    split
    · exact Group.related_of_mem_ofClauses _
    · apply Group.related_of_mem_prepend
      apply Group.ofChildren_related
      rw [List.forall_mem_map]
      exact ih

theorem relation_assemble (lookup : TermLookup) {filter : Filter}
    (single : filter.hasConflict = false) :
    (filter.assemble lookup).relation =
      if filter.disjuncts.isSome ∧ filter.conditions = [] then some .or
      else if filter.conjuncts.isNone ∧ filter.disjuncts.isNone ∧ filter.conditions.length ≤ 1 then
        none
      else some .and := by
  have none : (filter.clauses lookup).isEmpty ↔ filter.conditions = [] := by
    rw [List.isEmpty_iff, clauses, List.map_eq_nil_iff]
  have count : (filter.clauses lookup).length = filter.conditions.length := List.length_map _
  rw [assemble_eq, join]
  obtain ⟨tag, category, conjuncts, disjuncts⟩ := filter
  cases conjuncts with
  | none =>
    cases disjuncts with
    | none =>
      simp only [joining?, Option.isSome_none, Bool.false_eq_true, if_false, Group.ofClauses, count]
      simp only [← Nat.not_le, ite_not, false_and, if_false, Option.isNone_none, true_and]
    | some filters =>
      simp only [joining?, Option.isSome_none, Option.isSome_some, Bool.false_eq_true, if_false,
        if_true, Group.prepend_relation, none, Group.ofChildren, true_and, Option.isNone_some,
        false_and, and_false]
  | some filters =>
    cases disjuncts with
    | none =>
      simp only [joining?, Option.isSome_some, Option.isSome_none, Bool.false_eq_true, if_true,
        Group.prepend_relation, Group.ofChildren, ite_self, false_and, if_false,
        Option.isNone_some]
    | some others => cases single

end Filter

/-! ### Alternatives -/

namespace Item

/-- The groups of the item of which each is a choice, in the order they begin in. -/
def alternatives (item : Item) : List Group := item.groups.filter (·.relation = some .or)

@[simp] theorem alternatives_clause (single : Clause) : (clause single).alternatives = [] := by
  simp [alternatives]

theorem alternatives_or (items : List Item) :
    (group (some .or) items).alternatives =
      ⟨some .or, items⟩ :: items.flatMap (·.alternatives) := by
  simp only [alternatives, groups_group, List.filter_cons, List.filter_flatMap, decide_true,
    if_true]

theorem alternatives_joint (relation : Option Relation) (joint : relation ≠ some .or)
    (items : List Item) :
    (group relation items).alternatives = items.flatMap (·.alternatives) := by
  simp only [alternatives, groups_group, List.filter_cons, List.filter_flatMap, joint, decide_false,
    Bool.false_eq_true, if_false]

end Item

namespace Group

def alternatives (group : Group) : List Group := group.toItem.alternatives

@[simp] theorem toItem_alternatives (group : Group) :
    group.toItem.alternatives = group.alternatives := rfl

theorem toConjunct_alternatives (group : Group) :
    group.toConjunct.alternatives = group.alternatives := by
  obtain ⟨_ | _ | _, items⟩ := group
  · have tagged := Item.alternatives_joint (some .and) (by decide) items
    have untagged := Item.alternatives_joint none (by decide) items
    exact tagged.trans untagged.symm
  · rfl
  · have wrapped := Item.alternatives_joint (some .and) (by decide) [toItem ⟨some .or, items⟩]
    rwa [List.flatMap_singleton] at wrapped

theorem ofClauses_relation_ne (clauses : List Clause) :
    (ofClauses clauses).relation ≠ some .or := by
  rw [ofClauses]
  split <;> simp

theorem ofClauses_alternatives (clauses : List Clause) : (ofClauses clauses).alternatives = [] := by
  rw [← toItem_alternatives, toItem, Item.alternatives_joint _ (ofClauses_relation_ne clauses),
    ofClauses, List.flatMap_map]
  simp

theorem prepend_alternatives (clauses : List Clause) (group : Group) :
    (group.prepend clauses).alternatives = group.alternatives := by
  rw [prepend]
  split
  · rfl
  · have beside := Item.alternatives_joint (some .and) (by decide)
      (clauses.map .clause ++ [group.toItem])
    simp only [List.flatMap_append, List.flatMap_map, List.flatMap_singleton,
      Item.alternatives_clause, List.flatMap_eq_nil_iff.mpr fun _ _ => rfl, List.nil_append]
      at beside
    exact beside

theorem ofChildren_alternatives (relation : Relation) (children : List Group) :
    (ofChildren relation children).alternatives =
      (if relation = .or then [ofChildren .or children] else []) ++
        children.flatMap (·.alternatives) := by
  have below : (children.map (·.toConjunct.toItem)).flatMap (·.alternatives) =
      children.flatMap (·.alternatives) := by
    simp only [List.flatMap_map, toItem_alternatives, toConjunct_alternatives]
  rw [← below]
  cases relation with
  | and => exact Item.alternatives_joint (some .and) (by decide) _
  | or => exact Item.alternatives_or _

end Group

namespace Filter

theorem disjuncts_eq {filter : Filter} (single : filter.hasConflict = false) :
    filter.disjuncts = if filter.joining? = some .or then some filter.children else none := by
  obtain ⟨tag, category, conjuncts, disjuncts⟩ := filter
  cases conjuncts <;> cases disjuncts <;> simp_all [hasConflict, joining?, children]

theorem ne_nil_of_disjuncts {filter : Filter} (full : filter.hasEmptyRelation = false)
    {filters : List Filter} (written : filter.disjuncts = some filters) : filters ≠ [] := by
  intro none
  simp [hasEmptyRelation, written, none] at full

theorem join_alternatives (lookup : TermLookup) {filter : Filter}
    (single : filter.hasConflict = false) (assembled : Filter → Group) :
    (filter.join lookup (filter.children.map assembled)).alternatives =
      (filter.disjuncts.toList.map fun filters => Group.ofChildren .or (filters.map assembled)) ++
        filter.children.flatMap fun child => (assembled child).alternatives := by
  rw [join, disjuncts_eq single]
  cases joined : filter.joining? with
  | none =>
    rw [children_eq_nil_of_joining? joined]
    exact Group.ofClauses_alternatives _
  | some relation =>
    rw [Group.prepend_alternatives, Group.ofChildren_alternatives, List.flatMap_map]
    cases relation <;> rfl

/-- The choices of a compiled filter are those that are written, one after the other as the walk
meets them. -/
theorem alternatives_assemble (lookup : TermLookup) {depth : Nat} {filter : Filter}
    (single : ∀ level ∈ filter.walk depth, level.2.hasConflict = false) :
    (filter.assemble lookup).alternatives =
      ((filter.walk depth).filterMap (·.2.disjuncts)).map fun filters =>
        Group.ofChildren .or (filters.map (·.assemble lookup)) := by
  induction filter generalizing depth with
  | level filter ih =>
    obtain ⟨singleHere, singleBelow⟩ := forall_mem_walk_iff.mp single
    have below : (filter.children.flatMap fun child => (child.assemble lookup).alternatives) =
        filter.children.flatMap fun child =>
          ((child.walk (depth + 1)).filterMap (·.2.disjuncts)).map fun filters =>
            Group.ofChildren .or (filters.map (·.assemble lookup)) :=
      List.flatMap_congr fun child member => ih child member (singleBelow child member)
    rw [assemble_eq, join_alternatives lookup singleHere, below, walk_eq]
    simp only [List.filterMap_eq_flatMap_toList, List.flatMap_cons, List.flatMap_assoc,
      List.map_append, List.map_flatMap]

end Filter

/-! ### What the clauses compare -/

def TermValue.field : TermValue → TermField
  | .id _ => .id
  | .name _ => .name

/-- The clause compares ids with ids only, or names with names only. -/
def Clause.Uniform (clause : Clause) : Prop :=
  ∀ value ∈ clause.terms.values, value.field = clause.field

theorem OperatorSet.uniform_of_clause? {α : Type} {taxonomy : Taxonomy} {field : TermField}
    (value : α → TermValue) (same : ∀ argument, (value argument).field = field)
    {found : α → List Int64} {set : OperatorSet α} {comparison : Comparison} {clause : Clause}
    (asked : set.clause? taxonomy field value found comparison = some clause) :
    clause.Uniform := by
  have ids (list : List Int64) : ∀ entry ∈ (Terms.ids list).values, entry.field = .id := by
    rw [Terms.values_ids, List.forall_mem_map]
    exact fun id _ => rfl
  have several (list : OneOrMany α) :
      ∀ entry ∈ (Terms.many (list.values.map value)).values, entry.field = field := by
    rw [Terms.values_many, List.forall_mem_map]
    exact fun argument _ => same argument
  have one (argument : α) : ∀ entry ∈ (Terms.one (value argument)).values, entry.field = field := by
    rw [Terms.values_one, List.forall_mem_singleton]
    exact same argument
  cases comparison with
  | isIn | notIn =>
    obtain ⟨list, _, rfl⟩ := Option.map_eq_some_iff.mp asked
    exact several list
  | like | notLike =>
    obtain ⟨pattern, _, rfl⟩ := Option.map_eq_some_iff.mp asked
    exact ids (found pattern)
  | equal | notEqual =>
    obtain ⟨argument, _, rfl⟩ := Option.map_eq_some_iff.mp asked
    exact one argument

theorem FieldPredicate.uniform_of_clause? {lookup : TermLookup} {taxonomy : Taxonomy}
    {predicate : FieldPredicate} {field : TermField} {comparison : Comparison} {clause : Clause}
    (asked : predicate.clause? lookup taxonomy field comparison = some clause) :
    clause.Uniform := by
  cases field with
  | name =>
    obtain ⟨set, _, asked⟩ := Option.bind_eq_some_iff.mp asked
    exact OperatorSet.uniform_of_clause? .name (fun _ => rfl) asked
  | id =>
    obtain ⟨set, _, asked⟩ := Option.bind_eq_some_iff.mp asked
    exact OperatorSet.uniform_of_clause? .id (fun _ => rfl) asked

theorem Filter.uniform_of_mem_clauses {lookup : TermLookup} {filter : Filter} {clause : Clause}
    (listed : clause ∈ filter.clauses lookup) : clause.Uniform := by
  rw [clauses_eq] at listed
  obtain ⟨slot, _, asked⟩ := List.mem_filterMap.mp listed
  obtain ⟨predicate, _, asked⟩ := Option.bind_eq_some_iff.mp asked
  exact FieldPredicate.uniform_of_clause? asked

/-! ### Depth -/

namespace Group

theorem nestingDepth_ofClauses_le (clauses : List Clause) (bound : Nat) :
    (ofClauses clauses).nestingDepth ≤ bound := by
  rw [nestingDepth_le_iff, ofClauses, List.forall_mem_map]
  exact fun single _ => Item.depth_clause_le single bound

theorem nestingDepth_ofChildren_le_iff {relation : Relation} {groups : List Group} {bound : Nat} :
    (ofChildren relation groups).nestingDepth ≤ bound ↔
      ∀ group ∈ groups, group.toConjunct.toItem.depth ≤ bound := by
  rw [nestingDepth_le_iff, ofChildren, List.forall_mem_map]

/-- Clauses stand beside the group as a whole. -/
theorem nestingDepth_prepend (clauses : List Clause) (group : Group) :
    (group.prepend clauses).nestingDepth =
      if clauses.isEmpty then group.nestingDepth else group.nestingDepth + 1 := by
  rw [prepend]
  split
  · rfl
  · have bounds (bound : Nat) :
        nestingDepth ⟨some .and, clauses.map .clause ++ [group.toItem]⟩ ≤ bound ↔
          group.nestingDepth + 1 ≤ bound := by
      rw [nestingDepth_le_iff, List.forall_mem_append, List.forall_mem_map,
        List.forall_mem_singleton, depth_toItem]
      exact and_iff_right fun single _ => Item.depth_clause_le single bound
    apply Nat.le_antisymm
    · exact (bounds _).mpr (Nat.le_refl _)
    · exact (bounds _).mp (Nat.le_refl _)

theorem depth_toConjunct (group : Group) :
    group.toConjunct.toItem.depth =
      if group.relation = some .or then group.nestingDepth + 2 else group.nestingDepth + 1 := by
  rw [depth_toItem, nestingDepth_toConjunct]
  split <;> rfl

theorem nestingDepth_lt_depth_toConjunct (group : Group) :
    group.nestingDepth < group.toConjunct.toItem.depth := by
  rw [depth_toConjunct]
  split <;> omega

/-- Alternatives are wrapped only where no clauses stand beside them: either way adds a group, but
never both. -/
theorem depth_toConjunct_prepend_le (clauses : List Clause) (group : Group) :
    (group.prepend clauses).toConjunct.toItem.depth ≤ group.nestingDepth + 2 := by
  rw [depth_toConjunct, nestingDepth_prepend, prepend]
  split
  · split <;> omega
  · simp

end Group

namespace Filter

theorem height_pos_of_joining? {filter : Filter} {relation : Relation}
    (joined : filter.joining? = some relation) : 0 < filter.height := by
  obtain ⟨tag, category, conjuncts, disjuncts⟩ := filter
  rw [height]
  cases conjuncts with
  | some filters => exact Nat.lt_of_lt_of_le (Nat.succ_pos _) (Nat.le_max_left _ _)
  | none =>
    cases disjuncts with
    | some filters => exact Nat.lt_of_lt_of_le (Nat.succ_pos _) (Nat.le_max_right _ _)
    | none => cases joined

/-- The groups of the children stand one group deeper, and one more may be between. -/
theorem nestingDepth_ofChildren_assemble_le (lookup : TermLookup) {filter : Filter}
    (relation : Relation)
    (each : ∀ child ∈ filter.children,
      (child.assemble lookup).toConjunct.toItem.depth ≤ 2 * child.height + 1) :
    (Group.ofChildren relation (filter.children.map (·.assemble lookup))).nestingDepth ≤
      2 * filter.height - 1 := by
  rw [Group.nestingDepth_ofChildren_le_iff, List.forall_mem_map]
  intro child member
  have shallow := each child member
  have lower := height_lt_of_mem_children member
  omega

theorem depth_toConjunct_assemble_le (lookup : TermLookup) (filter : Filter) :
    (filter.assemble lookup).toConjunct.toItem.depth ≤ 2 * filter.height + 1 := by
  induction filter with
  | level filter ih =>
    rw [assemble_eq, join]
    split
    next =>
      have flat := Group.nestingDepth_ofClauses_le (filter.clauses lookup) 0
      rw [Group.depth_toConjunct, if_neg (Group.ofClauses_relation_ne _)]
      omega
    next relation joined =>
      have whole := Group.depth_toConjunct_prepend_le (filter.clauses lookup)
        (Group.ofChildren relation (filter.children.map (·.assemble lookup)))
      have below := nestingDepth_ofChildren_assemble_le lookup relation fun child member =>
        ih child member
      have positive := height_pos_of_joining? joined
      omega

theorem nestingDepth_assemble_le (lookup : TermLookup) (filter : Filter) :
    (filter.assemble lookup).nestingDepth ≤ 2 * filter.height := by
  have wrapped := depth_toConjunct_assemble_le lookup filter
  have inside := (filter.assemble lookup).nestingDepth_lt_depth_toConjunct
  omega

theorem nestingDepth_assemble_le_of_conditions (lookup : TermLookup) {filter : Filter}
    (bare : filter.conditions = []) :
    (filter.assemble lookup).nestingDepth ≤ 2 * filter.height - 1 := by
  have none : (filter.clauses lookup).isEmpty := by
    rw [clauses, bare]
    rfl
  rw [assemble_eq, join]
  split
  · exact Group.nestingDepth_ofClauses_le _ _
  · rw [Group.nestingDepth_prepend, if_pos none]
    exact nestingDepth_ofChildren_assemble_le lookup _ fun child _ =>
      depth_toConjunct_assemble_le lookup child

theorem height_le_nestingDepth_assemble (lookup : TermLookup) {depth : Nat} {filter : Filter}
    (full : ∀ level ∈ filter.walk depth, level.2.hasEmptyRelation = false) :
    filter.height ≤ (filter.assemble lookup).nestingDepth := by
  induction filter generalizing depth with
  | level filter ih =>
    obtain ⟨fullHere, fullBelow⟩ := forall_mem_walk_iff.mp full
    apply (height_le_iff fullHere).mpr
    intro child member
    have deeper := ih child member (fullBelow child member)
    have wrapped := (child.assemble lookup).nestingDepth_lt_depth_toConjunct
    rw [assemble_eq, join]
    split
    next unjoined =>
      rw [children_eq_nil_of_joining? unjoined] at member
      cases member
    next relation joined =>
      have listed := Group.nestingDepth_ofChildren_le_iff.mp
        (Nat.le_refl (Group.ofChildren relation
          (filter.children.map (·.assemble lookup))).nestingDepth)
        (child.assemble lookup) (List.mem_map_of_mem member)
      rw [Group.nestingDepth_prepend]
      split <;> omega

/-! ### The shape as a whole -/

/-- A compiled filter is a group of alternatives exactly if its root is a choice without conditions,
and names no relation exactly if there is nothing to join; every group below names one. The groups
of alternatives are the choices that are written, in the order of the walk, each of as many groups
as it has filters, and every one of these has to hold as a whole. Clauses compare like with like.
Groups stand inside one another at least as deep as the relations of the filter, and at most twice
as deep: so at most twice as deep as the limit leaves room, if depths count up. -/
theorem compileAt_shape (lookup : TermLookup) (limit depth : Nat) (filter : Filter) (group : Group)
    (compiled : filter.compileAt lookup limit depth = .ok group) :
    let choices := (filter.walk depth).filterMap (·.2.disjuncts)
    (group.relation =
      if filter.disjuncts.isSome ∧ filter.conditions = [] then some .or
      else if filter.conjuncts.isNone ∧ filter.disjuncts.isNone ∧ filter.conditions.length ≤ 1 then
        none
      else some .and) ∧
    (∀ item ∈ group.items, ∀ part ∈ item.groups, part.relation.isSome) ∧
    (∀ part ∈ group.alternatives, part.items ≠ [] ∧
      ∀ item ∈ part.items, ∃ items, item = .group (some .and) items) ∧
    group.alternatives = choices.map (fun filters =>
      .ofChildren .or (filters.map (·.assemble lookup))) ∧
    group.alternatives.map (·.items.length) = choices.map (·.length) ∧
    (∀ clause ∈ group.clauses, ∀ value ∈ clause.terms.values, value.field = clause.field) ∧
    filter.height ≤ group.nestingDepth ∧
    group.nestingDepth ≤ 2 * filter.height ∧
    (filter.conditions = [] → 0 < filter.height →
      group.nestingDepth ≤ 2 * filter.height - 1) ∧
    (filter.CountsUp limit depth → group.nestingDepth ≤ 2 * (limit - depth)) := by
  intro choices
  obtain ⟨passed, rfl⟩ := compileAt_eq_ok_iff.mp compiled
  have single : ∀ level ∈ filter.walk depth, level.2.hasConflict = false :=
    fun level member => (relations_of_refusal? passed depth level member).1
  have full : ∀ level ∈ filter.walk depth, level.2.hasEmptyRelation = false :=
    fun level member => (relations_of_refusal? passed depth level member).2
  have written := alternatives_assemble lookup single
  have deepest := nestingDepth_assemble_le lookup filter
  refine ⟨relation_assemble lookup (forall_mem_walk_iff.mp single).1,
    related_of_mem_assemble lookup filter, ?wrapped, written, ?lengths, ?uniform,
    height_le_nestingDepth_assemble lookup full, deepest,
    fun bare _ => nestingDepth_assemble_le_of_conditions lookup bare, ?within⟩
  case wrapped =>
    rw [written, List.forall_mem_map]
    intro filters choice
    obtain ⟨level, member, chosen⟩ := List.mem_filterMap.mp choice
    have nonempty : filters.map (·.assemble lookup) ≠ [] :=
      mt List.map_eq_nil_iff.mp (ne_nil_of_disjuncts (full level member) chosen)
    exact ⟨mt List.map_eq_nil_iff.mp nonempty, Group.and_of_mem_ofChildren .or _⟩
  case lengths =>
    rw [written, List.map_map]
    apply List.map_congr_left
    intro filters _
    simp [Group.ofChildren]
  case uniform =>
    rw [assemble_clauses lookup depth, List.forall_mem_flatMap]
    exact fun level _ clause listed => uniform_of_mem_clauses listed
  case within =>
    intro counts
    rw [counts.refusal?_eq] at passed
    have shallow := (firstFault?_eq_none_iff_height.mp passed).1
    omega

/-- A choice beside a condition, of another choice and of a filter with two conditions. -/
theorem compileAt_shape_of_nested_choices :
    let lookup : TermLookup := fun _ pattern => if pattern = "ani" then [2, 5] else []
    let filter : Filter :=
      { tag := some { name := some { notEqual := some "big" } }
        disjuncts := some [
          { disjuncts := some [{ category := some { name := some { like := some "ani" } } }, {}] },
          { category := some { id := some { isIn := some (.one 4), notLike := some 5 } } }, {}] }
    let group := filter.assemble lookup
    filter.compileAt lookup 2 0 = .ok group ∧ filter.CountsUp 2 0 ∧
      group.relation = some .and ∧
      (∀ part ∈ group.alternatives, part.items ≠ [] ∧
        ∀ item ∈ part.items, ∃ items, item = .group (some .and) items) ∧
      group.alternatives.map (·.items.length) = [3, 2] ∧
      filter.height = 2 ∧ group.nestingDepth = 4 ∧ group.nestingDepth ≤ 2 * filter.height ∧
      group.nestingDepth ≤ 2 * (2 - 0) := by
  intro lookup filter group
  have counts : filter.CountsUp 2 0 := .inl (by decide)
  obtain ⟨root, _, choices, _, lengths, _, _, deepest, _, within⟩ :=
    compileAt_shape lookup 2 0 filter group rfl
  exact ⟨rfl, counts, root, choices, lengths, rfl, rfl, deepest, within counts⟩

/-- At the greatest depth the next one is 0, so a limit that leaves no room does not cut off. -/
theorem nestingDepth_at_greatest_depth :
    let filter : Filter := { disjuncts := some [{}] }
    let group : Group := ⟨some .or, [.group (some .and) []]⟩
    filter.compileAt .none Text.greatestNatural Text.greatestNatural = .ok group ∧
      ¬group.nestingDepth ≤ 2 * (Text.greatestNatural - Text.greatestNatural) := by
  intro filter group
  have wrapped : deeper Text.greatestNatural = 0 := by decide
  have passed : filter.refusal? Text.greatestNatural Text.greatestNatural = none := by
    rw [refusal?_eq, wrapped]
    rfl
  refine ⟨compileAt_eq_ok_iff.mpr ⟨passed, rfl⟩, ?_⟩
  rw [Nat.sub_self]
  decide

end Filter

end TaxonomyQuery
