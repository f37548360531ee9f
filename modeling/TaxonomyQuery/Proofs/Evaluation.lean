import TaxonomyQuery.Clause.Evaluate
import TaxonomyQuery.Proofs.Assembly
import TaxonomyQuery.Proofs.ClauseTree
/-!
What a group asks of a record, as rules, and how far evaluation follows them. The documented rule is
that a group without items always holds. Evaluation keeps to it except for alternatives: where there
are none, none of them can hold. No filter is compiled to such a group.
-/

set_option autoImplicit false

namespace TaxonomyQuery

/-! ### Rules -/

/-- The value is that of a term: ids are compared with ids, and names with names. -/
def TermField.Names (field : TermField) (terms : List (Int64 × String)) (value : TermValue) :
    Prop :=
  match field with
  | .id => ∃ id name, value.id? = some id ∧ (id, name) ∈ terms
  | .name => ∃ id, (id, value.text) ∈ terms

/-- One of the values listed is that of a term of the record, or none is. -/
def Clause.Holds (clause : Clause) (source : TermSource) : Prop :=
  match clause.operator with
  | .isIn => ∃ value ∈ clause.terms.values, clause.field.Names (source clause.taxonomy) value
  | .notIn => ∀ value ∈ clause.terms.values, ¬ clause.field.Names (source clause.taxonomy) value

/-- Alternatives hold by one of them, and items under any other relation by all. Whether a group
without items holds is left to `rule`. -/
inductive Item.Holds (rule : Option Relation → Prop) (source : TermSource) : Item → Prop where
  | clause {single : Clause} (holds : single.Holds source) : Holds rule source (.clause single)
  | empty {relation : Option Relation} (ruled : rule relation) :
      Holds rule source (.group relation [])
  | any {items : List Item} {item : Item} (listed : item ∈ items)
      (holds : Holds rule source item) : Holds rule source (.group (some .or) items)
  | all {relation : Option Relation} {items : List Item} (nonempty : items ≠ [])
      (joint : relation ≠ some .or) (each : ∀ item ∈ items, Holds rule source item) :
      Holds rule source (.group relation items)

/-- The group holds by the documented rules, by which a group without items always does. -/
def Group.Documented (group : Group) (source : TermSource) : Prop :=
  group.toItem.Holds (fun _ => True) source

/-! ### Clauses -/

theorem TermField.refers_iff {field : TermField} {terms : List (Int64 × String)}
    {value : TermValue} : field.refers terms value ↔ field.Names terms value := by
  cases field with
  | id =>
    rw [refers, Names]
    cases value.id? <;> simp
  | name => simp [refers, Names]

theorem Clause.accepts_iff {clause : Clause} {source : TermSource} :
    clause.accepts source ↔ clause.Holds source := by
  rw [accepts, Holds]
  cases clause.operator with
  | isIn => simp only [List.any_eq_true, TermField.refers_iff]
  | notIn => simp only [Bool.not_eq_true', List.any_eq_false, TermField.refers_iff]

/-! ### Groups -/

namespace Item

variable {source : TermSource}

theorem accepts_alternatives {items : List Item} :
    (group (some .or) items).accepts source ↔ ∃ item ∈ items, item.accepts source := by
  rw [accepts, anyAccepts_eq_any, List.any_eq_true]

theorem accepts_joint {relation : Option Relation} (joint : relation ≠ some .or)
    {items : List Item} :
    (group relation items).accepts source ↔ ∀ item ∈ items, item.accepts source := by
  rw [accepts, allAccept_eq_all, List.all_eq_true]
  exact joint

theorem Holds.mono {rule weaker : Option Relation → Prop} (implied : ∀ relation, rule relation →
    weaker relation) {item : Item} (holds : item.Holds rule source) : item.Holds weaker source := by
  induction holds with
  | clause holds => exact .clause holds
  | empty ruled => exact .empty (implied _ ruled)
  | any listed _ ih => exact .any listed ih
  | all nonempty joint _ ih => exact .all nonempty joint ih

/-- Evaluation goes by the rules where alternatives without items never hold. -/
theorem accepts_iff {item : Item} : item.accepts source ↔ item.Holds (· ≠ some .or) source := by
  induction item with
  | clause single =>
    rw [accepts_clause, Clause.accepts_iff]
    constructor
    · exact .clause
    · rintro ⟨holds⟩
      exact holds
  | group relation items ih =>
    -- Evaluation tells alternatives from all other groups, and only they fail without items.
    by_cases alternatives : relation = some .or
    · subst alternatives
      rw [accepts_alternatives]
      constructor
      · rintro ⟨item, listed, accepted⟩
        exact .any listed ((ih item listed).mp accepted)
      · intro holds
        cases holds with
        | empty ruled => exact absurd rfl ruled
        | any listed holds => exact ⟨_, listed, (ih _ listed).mpr holds⟩
        | all _ joint _ => exact absurd rfl joint
    · rw [accepts_joint alternatives]
      constructor
      · intro accepted
        cases items with
        | nil => exact .empty alternatives
        | cons first rest =>
          exact .all (List.cons_ne_nil _ _) alternatives fun item listed =>
            (ih item listed).mp (accepted item listed)
      · intro holds item listed
        cases holds with
        | empty _ => cases listed
        | any _ _ => exact absurd rfl alternatives
        | all _ _ each => exact (ih item listed).mpr (each item listed)

end Item

/-! ### The groups of a group -/

namespace Item

mutual

/-- The group that the item is, if it is one, and all groups in it, each before those in it. -/
def groups : Item → List Group
  | .clause _ => []
  | .group relation items => ⟨relation, items⟩ :: itemsGroups items

def itemsGroups : List Item → List Group
  | [] => []
  | item :: rest => item.groups ++ itemsGroups rest

end

/-- There is something to choose from wherever alternatives stand. -/
def Full (item : Item) : Prop := ∀ part ∈ item.groups, part ≠ ⟨some .or, []⟩

theorem itemsGroups_eq_flatMap (items : List Item) :
    itemsGroups items = items.flatMap (·.groups) := by
  induction items with
  | nil => rfl
  | cons item rest ih => simp only [itemsGroups, List.flatMap_cons, ih]

@[simp] theorem groups_clause (single : Clause) : (clause single).groups = [] := by
  simp only [groups]

theorem groups_group (relation : Option Relation) (items : List Item) :
    (group relation items).groups = ⟨relation, items⟩ :: items.flatMap (·.groups) := by
  rw [groups, itemsGroups_eq_flatMap]

theorem mem_groups_trans {item : Item} {part other : Group} (inside : part ∈ item.groups)
    (deeper : other ∈ part.toItem.groups) : other ∈ item.groups := by
  induction item with
  | clause single => cases inside
  | group relation items ih =>
    rw [groups_group] at inside ⊢
    rcases List.mem_cons.mp inside with rfl | below
    · rwa [Group.toItem, groups_group] at deeper
    · obtain ⟨item, listed, among⟩ := List.mem_flatMap.mp below
      exact List.mem_cons_of_mem _ (List.mem_flatMap.mpr ⟨item, listed, ih item listed among⟩)

theorem full_clause (single : Clause) : (clause single).Full := by simp [Full]

theorem full_group_iff {relation : Option Relation} {items : List Item} :
    (group relation items).Full ↔
      (relation = some .or → items ≠ []) ∧ ∀ item ∈ items, item.Full := by
  simp only [Full, groups_group, List.forall_mem_cons, List.forall_mem_flatMap, ne_eq,
    Group.mk.injEq, not_and]

/-- Without empty alternatives it does not matter by which rule they are judged. -/
theorem Holds.of_full {item : Item} {source : TermSource} (full : item.Full)
    (holds : item.Holds (fun _ => True) source) : item.Holds (· ≠ some .or) source := by
  induction holds with
  | clause holds => exact .clause holds
  | empty _ => exact .empty fun alternatives => (full_group_iff.mp full).1 alternatives rfl
  | any listed _ ih => exact .any listed (ih ((full_group_iff.mp full).2 _ listed))
  | all nonempty joint _ ih =>
    refine .all nonempty joint fun item listed => ih item listed ?_
    exact (full_group_iff.mp full).2 item listed

end Item

namespace Group

/-- The group and all groups in it. -/
def parts (group : Group) : List Group := group.toItem.groups

theorem Documented.of_accepts {group : Group} {source : TermSource}
    (accepted : group.accepts source) : group.Documented source :=
  (Item.accepts_iff.mp accepted).mono fun _ _ => trivial

theorem accepts_iff_documented {group : Group} (full : group.toItem.Full) (source : TermSource) :
    group.accepts source ↔ group.Documented source :=
  ⟨.of_accepts, fun documented => Item.accepts_iff.mpr (documented.of_full full)⟩

/-- A group is evaluated by the rules where alternatives without items never hold. What it accepts
holds as documented, and none of its groups differs from the documentation exactly if none of them
is one of alternatives without items. -/
theorem accepts_as_documented_iff (group : Group) (source : TermSource) :
    (group.accepts source ↔ group.toItem.Holds (· ≠ some .or) source) ∧
      (group.accepts source → group.Documented source) ∧
      ((∀ part ∈ group.parts, part.accepts source ↔ part.Documented source) ↔
        ∀ part ∈ group.parts, part ≠ ⟨some .or, []⟩) := by
  refine ⟨Item.accepts_iff, .of_accepts, ?_, ?_⟩
  · rintro agree part inside rfl
    have accepted := (agree _ inside).mpr (.empty trivial)
    cases accepted
  · intro full part inside
    refine accepts_iff_documented (fun other deeper => full other ?_) source
    exact Item.mem_groups_trans inside deeper

theorem empty_alternatives_refused :
    let group : Group := ⟨some .or, []⟩
    let source : TermSource := fun _ => []
    group.Documented source ∧ group.accepts source = false :=
  ⟨.empty trivial, rfl⟩

/-! ### Compiled filters -/

theorem toConjunct_full {group : Group} (full : group.toItem.Full) :
    group.toConjunct.toItem.Full := by
  obtain ⟨_ | _ | _, items⟩ := group
  · exact Item.full_group_iff.mpr ⟨nofun, (Item.full_group_iff.mp full).2⟩
  · exact full
  · refine Item.full_group_iff.mpr ⟨nofun, ?_⟩
    rintro _ (_ | ⟨_, ⟨⟩⟩)
    exact full

theorem ofClauses_full (clauses : List Clause) : (ofClauses clauses).toItem.Full := by
  rw [ofClauses]
  refine Item.full_group_iff.mpr ⟨?_, ?_⟩
  · split <;> nofun
  · intro item listed
    obtain ⟨single, _, rfl⟩ := List.mem_map.mp listed
    exact Item.full_clause single

theorem ofChildren_full {relation : Relation} {children : List Group} (nonempty : children ≠ [])
    (each : ∀ child ∈ children, child.toItem.Full) :
    (ofChildren relation children).toItem.Full := by
  refine Item.full_group_iff.mpr ⟨fun _ => mt List.map_eq_nil_iff.mp nonempty, ?_⟩
  intro item listed
  obtain ⟨child, among, rfl⟩ := List.mem_map.mp listed
  exact toConjunct_full (each child among)

theorem prepend_full {group : Group} (full : group.toItem.Full) (clauses : List Clause) :
    (group.prepend clauses).toItem.Full := by
  rw [prepend]
  split
  · exact full
  · refine Item.full_group_iff.mpr ⟨nofun, ?_⟩
    intro item listed
    rcases List.mem_append.mp listed with among | last
    · obtain ⟨single, _, rfl⟩ := List.mem_map.mp among
      exact Item.full_clause single
    · rwa [List.mem_singleton.mp last]

end Group

namespace Filter

theorem assemble_full (lookup : TermLookup) {depth : Nat} {filter : Filter}
    (full : ∀ level ∈ filter.walk depth, level.2.hasEmptyRelation = false) :
    (filter.assemble lookup).toItem.Full := by
  induction filter generalizing depth with
  | level filter ih =>
    obtain ⟨(fullHere : filter.hasEmptyRelation = false), fullBelow⟩ := forall_mem_walk_iff.mp full
    rw [assemble_eq, join]
    split
    next => exact Group.ofClauses_full _
    next relation joined =>
      refine Group.prepend_full (Group.ofChildren_full ?_ ?_) _
      · exact mt List.map_eq_nil_iff.mp (children_ne_nil_of_joining? joined fullHere)
      · intro group listed
        obtain ⟨child, member, rfl⟩ := List.mem_map.mp listed
        exact ih child member (fullBelow child member)

/-- No filter is compiled to empty alternatives, so what its group accepts is as documented. -/
theorem compileAt_accepts_iff_documented {lookup : TermLookup} {limit depth : Nat}
    {filter : Filter} {group : Group} (compiled : filter.compileAt lookup limit depth = .ok group)
    (source : TermSource) : group.accepts source ↔ group.Documented source := by
  obtain ⟨passed, rfl⟩ := compileAt_eq_ok_iff.mp compiled
  have full : ∀ level ∈ filter.walk depth, level.2.hasEmptyRelation = false :=
    fun level member => (relations_of_refusal? passed depth level member).2
  exact Group.accepts_iff_documented (assemble_full lookup full) source

end Filter

end TaxonomyQuery
