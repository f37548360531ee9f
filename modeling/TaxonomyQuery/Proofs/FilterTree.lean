import TaxonomyQuery.Filter.Walk
/-!
Filters as trees: induction on the levels, what a level asks of its children, and the first fault of
a walk by the level's own fault and the faults of its children.
-/

set_option autoImplicit false

namespace TaxonomyQuery.Filter

/-- What holds of a level whenever it holds of its children holds of every filter. -/
@[elab_as_elim, induction_eliminator]
theorem induct {motive : Filter → Prop}
    (level : ∀ filter, (∀ child ∈ filter.children, motive child) → motive filter)
    (filter : Filter) : motive filter := by
  refine @Filter.rec motive (fun below => ∀ child ∈ below.getD [], motive child)
    (fun filters => ∀ child ∈ filters, motive child) ?_ ?_ ?_ ?_ ?_ filter
  · intro tag category conjuncts disjuncts ofConjuncts ofDisjuncts
    apply level
    intro child member
    rcases List.mem_append.mp member with among | among
    · exact ofConjuncts child among
    · exact ofDisjuncts child among
  · intro child member
    cases member
  · intro filters ofFilters
    exact ofFilters
  · intro child member
    cases member
  · intro first rest ofFirst ofRest child member
    rcases List.mem_cons.mp member with rfl | among
    · exact ofFirst
    · exact ofRest child among

section Congruence

variable {filter : Filter} {test other : Filter → Bool}
  (same : ∀ child ∈ filter.children, test child = other child)

include same

theorem conjuncts_all_congr :
    filter.conjuncts.all (·.all test) = filter.conjuncts.all (·.all other) := by
  cases written : filter.conjuncts with
  | none => rfl
  | some list =>
    have verdicts : list.map test = list.map other := List.map_congr_left fun child member =>
      same child (by simp [children, written, member])
    simpa [List.all_map] using congrArg (List.all · id) verdicts

theorem disjuncts_any_congr :
    filter.disjuncts.all (·.any test) = filter.disjuncts.all (·.any other) := by
  cases written : filter.disjuncts with
  | none => rfl
  | some list =>
    have verdicts : list.map test = list.map other := List.map_congr_left fun child member =>
      same child (by simp [children, written, member])
    simpa [List.any_map] using congrArg (List.any · id) verdicts

end Congruence

/-- The relation that joins the children of a level. -/
def joining? (filter : Filter) : Option Relation :=
  if filter.conjuncts.isSome then some .and
  else if filter.disjuncts.isSome then some .or
  else none

theorem children_eq_nil_of_joining? {filter : Filter} (unjoined : filter.joining? = none) :
    filter.children = [] := by
  obtain ⟨tag, category, conjuncts, disjuncts⟩ := filter
  cases conjuncts <;> cases disjuncts <;> simp_all [joining?, children]

theorem children_ne_nil_of_joining? {filter : Filter} {relation : Relation}
    (joined : filter.joining? = some relation) (full : filter.hasEmptyRelation = false) :
    filter.children ≠ [] := by
  obtain ⟨tag, category, conjuncts, disjuncts⟩ := filter
  rcases conjuncts with _ | _ | _ <;> rcases disjuncts with _ | _ | _ <;>
    simp_all [joining?, hasEmptyRelation, children]

theorem height_lt_of_mem_getD {below : Option (List Filter)} {child : Filter}
    (member : child ∈ below.getD []) : child.height < heightBelow below := by
  cases below with
  | none => cases member
  | some filters => exact Nat.lt_succ_of_le (heightAll_le_iff.mp (Nat.le_refl _) child member)

theorem height_lt_of_mem_children {filter child : Filter} (member : child ∈ filter.children) :
    child.height < filter.height := by
  obtain ⟨tag, category, conjuncts, disjuncts⟩ := filter
  rw [height]
  rcases List.mem_append.mp member with among | among
  · have : child.height < heightBelow conjuncts := height_lt_of_mem_getD among
    omega
  · have : child.height < heightBelow disjuncts := height_lt_of_mem_getD among
    omega

theorem heightBelow_le_iff {below : Option (List Filter)} (full : below.any (·.isEmpty) = false)
    {bound : Nat} : heightBelow below ≤ bound ↔ ∀ child ∈ below.getD [], child.height < bound := by
  rcases below with _ | _ | ⟨first, rest⟩
  · simp [heightBelow]
  · simp at full
  · cases bound with
    | zero =>
      constructor
      · intro bounded
        simp only [heightBelow, Nat.le_zero, Nat.add_eq_zero_iff, Nat.one_ne_zero, and_false]
          at bounded
      · intro below
        exact absurd (below first List.mem_cons_self) (Nat.not_lt_zero _)
    | succ bound =>
      simp only [heightBelow, Nat.add_le_add_iff_right, heightAll_le_iff, Option.getD_some,
        Nat.lt_succ_iff]

/-- Each child stands below its level, if every relation that is written has one. -/
theorem height_le_iff {filter : Filter} (full : filter.hasEmptyRelation = false) {bound : Nat} :
    filter.height ≤ bound ↔ ∀ child ∈ filter.children, child.height < bound := by
  obtain ⟨tag, category, conjuncts, disjuncts⟩ := filter
  obtain ⟨fullConjuncts, fullDisjuncts⟩ := Bool.or_eq_false_iff.mp full
  rw [height, Nat.max_le, heightBelow_le_iff fullConjuncts, heightBelow_le_iff fullDisjuncts,
    children, List.forall_mem_append]

theorem le_of_mem_walk {depth : Nat} {filter : Filter} :
    ∀ level ∈ filter.walk depth, level.1 ≤ depth + filter.height := by
  induction filter generalizing depth with
  | level filter ih =>
    rw [walk_eq, List.forall_mem_cons, List.forall_mem_flatMap]
    refine ⟨Nat.le_add_right _ _, fun child member level below => ?_⟩
    have lower : child.height < filter.height := height_lt_of_mem_children member
    have := ih child member level below
    omega

/-- A property of all levels is one of the root and of the levels below each child. -/
theorem forall_mem_walk_iff {depth : Nat} {filter : Filter} {property : Nat × Filter → Prop} :
    (∀ level ∈ filter.walk depth, property level) ↔
      property (depth, filter) ∧
        ∀ child ∈ filter.children, ∀ level ∈ child.walk (depth + 1), property level := by
  rw [walk_eq, List.forall_mem_cons, List.forall_mem_flatMap]

theorem ownFault?_eq_none_iff {limit depth : Nat} {filter : Filter} :
    filter.ownFault? limit depth = none ↔
      depth ≤ limit ∧ filter.hasConflict = false ∧ filter.hasEmptyRelation = false := by
  unfold ownFault?
  split
  · simp; omega
  · split
    · simp_all
    · split <;> simp_all

/-- What is found first is decided by what is found up to there. -/
theorem findSome?_congr_of_reached {α β : Type} {found other : α → Option β} {entries : List α}
    (same : ∀ before entry after, entries = before ++ entry :: after →
      (∀ earlier ∈ before, found earlier = none) → other entry = found entry) :
    entries.findSome? other = entries.findSome? found := by
  induction entries with
  | nil => rfl
  | cons first rest ih =>
    rw [List.findSome?_cons, List.findSome?_cons, same [] first rest rfl (by simp)]
    cases here : found first with
    | some value => rfl
    | none =>
      apply ih
      intro before entry after split missed
      refine same (first :: before) entry after (by rw [split, List.cons_append]) ?_
      exact List.forall_mem_cons.mpr ⟨here, missed⟩

theorem findSome?_flatMap_walk {β : Type} (found : Nat × Filter → Option β) (depth : Nat)
    (filters : List Filter) :
    (filters.flatMap (·.walk depth)).findSome? found =
      filters.findSome? fun filter => (filter.walk depth).findSome? found := by
  induction filters with
  | nil => rfl
  | cons first rest ih =>
    rw [List.flatMap_cons, List.findSome?_append, List.findSome?_cons, ih]
    cases (first.walk depth).findSome? found <;> rfl

theorem firstFault?_eq_none_iff {limit depth : Nat} {filter : Filter} :
    filter.firstFault? limit depth = none ↔
      ∀ level ∈ filter.walk depth, level.2.ownFault? limit level.1 = none := by
  rw [firstFault?, List.findSome?_eq_none_iff]

theorem firstFault?_eq (limit depth : Nat) (filter : Filter) :
    filter.firstFault? limit depth =
      (filter.ownFault? limit depth).or
        (filter.children.findSome? (·.firstFault? limit (depth + 1))) := by
  rw [firstFault?, walk_eq, List.findSome?_cons, findSome?_flatMap_walk]
  cases filter.ownFault? limit depth <;> rfl

end TaxonomyQuery.Filter
