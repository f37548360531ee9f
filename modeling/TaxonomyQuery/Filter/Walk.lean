import TaxonomyQuery.Filter.Basic
/-!
Walking through a filter: every level, the root first, then what stands below it from left to right.
-/

set_option autoImplicit false

namespace TaxonomyQuery.Filter

mutual

/-- The levels of a filter at `depth`, each with its own depth. -/
def walk (depth : Nat) : Filter → List (Nat × Filter)
  | ⟨tag, category, conjuncts, disjuncts⟩ =>
    (depth, ⟨tag, category, conjuncts, disjuncts⟩) ::
      (walkBelow (depth + 1) conjuncts ++ walkBelow (depth + 1) disjuncts)

def walkBelow (depth : Nat) : Option (List Filter) → List (Nat × Filter)
  | none => []
  | some filters => walkAll depth filters

def walkAll (depth : Nat) : List Filter → List (Nat × Filter)
  | [] => []
  | filter :: rest => filter.walk depth ++ walkAll depth rest

end

mutual

/-- How many relations stand inside one another. -/
def height : Filter → Nat
  | ⟨_, _, conjuncts, disjuncts⟩ => max (heightBelow conjuncts) (heightBelow disjuncts)

def heightBelow : Option (List Filter) → Nat
  | none => 0
  | some filters => heightAll filters + 1

def heightAll : List Filter → Nat
  | [] => 0
  | filter :: rest => max filter.height (heightAll rest)

end

/-- The filters that stand right below a level. -/
def children (filter : Filter) : List Filter :=
  filter.conjuncts.getD [] ++ filter.disjuncts.getD []

/-- Both relations are written, whatever they contain. -/
def hasConflict (filter : Filter) : Bool := filter.conjuncts.isSome && filter.disjuncts.isSome

/-- A relation is written without a filter. -/
def hasEmptyRelation (filter : Filter) : Bool :=
  filter.conjuncts.any (·.isEmpty) || filter.disjuncts.any (·.isEmpty)

/-- What is wrong with a level itself: how deep it stands comes first, then two relations at once,
then a single one that is empty. -/
def ownFault? (limit depth : Nat) (filter : Filter) : Option FilterError :=
  if limit < depth then some (.depthExceeded limit)
  else if filter.hasConflict then some .conflictingRelations
  else if filter.hasEmptyRelation then some .emptyRelation
  else none

/-- The first fault of a walk. -/
def firstFault? (limit depth : Nat) (filter : Filter) : Option FilterError :=
  (filter.walk depth).findSome? fun level => level.2.ownFault? limit level.1

@[simp] theorem walkAll_nil (depth : Nat) : walkAll depth [] = [] := by simp only [walkAll]

@[simp] theorem walkAll_cons (depth : Nat) (filter : Filter) (rest : List Filter) :
    walkAll depth (filter :: rest) = filter.walk depth ++ walkAll depth rest := by
  simp only [walkAll]

theorem walkAll_eq_flatMap (depth : Nat) (filters : List Filter) :
    walkAll depth filters = filters.flatMap (·.walk depth) := by
  induction filters with
  | nil => rfl
  | cons filter rest ih => simp only [walkAll_cons, List.flatMap_cons, ih]

theorem walk_eq (depth : Nat) (filter : Filter) :
    filter.walk depth = (depth, filter) :: filter.children.flatMap (·.walk (depth + 1)) := by
  obtain ⟨tag, category, conjuncts, disjuncts⟩ := filter
  cases conjuncts <;> cases disjuncts <;>
    simp only [walk, walkBelow, walkAll_eq_flatMap, children, Option.getD, List.flatMap_append,
      List.flatMap_nil]

theorem heightAll_le_iff {bound : Nat} {filters : List Filter} :
    heightAll filters ≤ bound ↔ ∀ filter ∈ filters, filter.height ≤ bound := by
  induction filters with
  | nil => simp [heightAll]
  | cons filter rest ih => simp only [heightAll, Nat.max_le, ih, List.forall_mem_cons]

end TaxonomyQuery.Filter
