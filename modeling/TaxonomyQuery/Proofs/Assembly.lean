import TaxonomyQuery.Filter.Compile
import TaxonomyQuery.Proofs.FilterTree
/-!
Compiling taken apart: whether there is a group depends on the limit and the depth, and the group
itself on neither of them. As long as depths do not begin again at 0, the first fault of the walk is
what a filter is refused for.
-/

set_option autoImplicit false

namespace TaxonomyQuery.Filter

/-- The group of a level, given those of its children. -/
def join (lookup : TermLookup) (filter : Filter) (groups : List Group) : Group :=
  match filter.joining? with
  | none => .ofClauses (filter.clauses lookup)
  | some relation => (Group.ofChildren relation groups).prepend (filter.clauses lookup)

mutual

/-- The group of a filter, whatever is wrong with it. -/
def assemble (lookup : TermLookup) : Filter → Group
  | ⟨tag, category, conjuncts, disjuncts⟩ =>
    join lookup ⟨tag, category, conjuncts, disjuncts⟩
      (assembleBelow lookup conjuncts ++ assembleBelow lookup disjuncts)

def assembleBelow (lookup : TermLookup) : Option (List Filter) → List Group
  | none => []
  | some filters => assembleAll lookup filters

def assembleAll (lookup : TermLookup) : List Filter → List Group
  | [] => []
  | filter :: rest => filter.assemble lookup :: assembleAll lookup rest

end

theorem assembleAll_eq_map (lookup : TermLookup) (filters : List Filter) :
    assembleAll lookup filters = filters.map (·.assemble lookup) := by
  induction filters with
  | nil => simp only [assembleAll, List.map_nil]
  | cons filter rest ih => simp only [assembleAll, List.map_cons, ih]

theorem assemble_eq (lookup : TermLookup) (filter : Filter) :
    filter.assemble lookup = filter.join lookup (filter.children.map (·.assemble lookup)) := by
  obtain ⟨tag, category, conjuncts, disjuncts⟩ := filter
  rw [assemble]
  cases conjuncts <;> cases disjuncts <;>
    simp only [assembleBelow, assembleAll_eq_map, children, Option.getD, List.map_append,
      List.map_nil]

/-- A level is compiled if nothing is wrong with it and its children are compiled. -/
theorem compileAt_step (lookup : TermLookup) (limit depth : Nat) (filter : Filter) :
    filter.compileAt lookup limit depth =
      (filter.ownFault? limit depth).elim
        ((compileAll lookup limit (deeper depth) filter.children).map (filter.join lookup))
        .error := by
  obtain ⟨tag, category, conjuncts, disjuncts⟩ := filter
  rw [compileAt, ownFault?]
  split
  · rfl
  · rcases conjuncts with _ | _ | ⟨first, rest⟩
    · rcases disjuncts with _ | _ | ⟨first, rest⟩
      · simp only [children, Option.getD, List.append_nil, compileAll]
        rfl
      · rfl
      · rfl
    · cases disjuncts <;> rfl
    · cases disjuncts with
      | none =>
        simp only [children, Option.getD, List.append_nil]
        rfl
      | some filters => rfl

theorem compileAll_eq (lookup : TermLookup) (limit depth : Nat)
    (fault? : Filter → Option FilterError) (filters : List Filter)
    (each : ∀ filter ∈ filters, filter.compileAt lookup limit depth =
      (fault? filter).elim (.ok (filter.assemble lookup)) .error) :
    compileAll lookup limit depth filters =
      (filters.findSome? fault?).elim (.ok (filters.map (·.assemble lookup))) .error := by
  induction filters with
  | nil => rw [compileAll]; rfl
  | cons first rest ih =>
    rw [compileAll, each first List.mem_cons_self,
      ih fun filter member => each filter (List.mem_cons_of_mem _ member), List.findSome?_cons]
    cases fault? first with
    | some error => rfl
    | none => cases rest.findSome? fault? <;> rfl

/-! ### Why a filter is refused -/

/-- Why a filter is refused, if it is. No lookup has a say in that (`compileAt_eq`). -/
def refusal? (limit depth : Nat) (filter : Filter) : Option FilterError :=
  match filter.compileAt .none limit depth with
  | .error error => some error
  | .ok _ => none

theorem refusal?_of_compileAt {limit depth : Nat} {filter : Filter} {fault : Option FilterError}
    {group : Group}
    (compiled : filter.compileAt .none limit depth = fault.elim (.ok group) .error) :
    filter.refusal? limit depth = fault := by
  rw [refusal?, compiled]
  cases fault <;> rfl

/-- What holds of the children of a level holds of the level. -/
theorem compileAt_eq_of_children {limit depth : Nat} {filter : Filter}
    (each : ∀ lookup, ∀ child ∈ filter.children,
      child.compileAt lookup limit (deeper depth) =
        (child.refusal? limit (deeper depth)).elim (.ok (child.assemble lookup)) .error)
    (lookup : TermLookup) :
    filter.compileAt lookup limit depth =
      ((filter.ownFault? limit depth).or
        (filter.children.findSome? (·.refusal? limit (deeper depth)))).elim
          (.ok (filter.assemble lookup)) .error := by
  rw [compileAt_step, assemble_eq,
    compileAll_eq lookup limit (deeper depth) (·.refusal? limit (deeper depth)) filter.children
      (each lookup)]
  cases filter.ownFault? limit depth with
  | some error => rfl
  | none => cases filter.children.findSome? (·.refusal? limit (deeper depth)) <;> rfl

/-- With every lookup a filter is refused for the same reason, or compiled to the group that is
assembled of it. -/
theorem compileAt_eq (lookup : TermLookup) (limit depth : Nat) (filter : Filter) :
    filter.compileAt lookup limit depth =
      (filter.refusal? limit depth).elim (.ok (filter.assemble lookup)) .error := by
  induction filter generalizing lookup depth with
  | level filter ih =>
    have whole := compileAt_eq_of_children fun lookup child member =>
      ih child member lookup (deeper depth)
    rw [refusal?_of_compileAt (whole .none)]
    exact whole lookup

theorem refusal?_eq (limit depth : Nat) (filter : Filter) :
    filter.refusal? limit depth =
      (filter.ownFault? limit depth).or
        (filter.children.findSome? (·.refusal? limit (deeper depth))) :=
  refusal?_of_compileAt
    (compileAt_eq_of_children (fun lookup child _ => compileAt_eq lookup limit _ child) .none)

theorem compileAt_eq_ok_iff {lookup : TermLookup} {limit depth : Nat} {filter : Filter}
    {group : Group} :
    filter.compileAt lookup limit depth = .ok group ↔
      filter.refusal? limit depth = none ∧ group = filter.assemble lookup := by
  rw [compileAt_eq]
  cases filter.refusal? limit depth <;> simp [eq_comm]

theorem compileAt_eq_error_iff {lookup : TermLookup} {limit depth : Nat} {filter : Filter}
    {error : FilterError} :
    filter.compileAt lookup limit depth = .error error ↔
      filter.refusal? limit depth = some error := by
  rw [compileAt_eq]
  cases filter.refusal? limit depth <;> simp

/-- However deep a filter begins, where it is not refused no level has two relations or an empty
one. -/
theorem relations_of_refusal? {limit depth : Nat} {filter : Filter}
    (passed : filter.refusal? limit depth = none) (top : Nat) :
    ∀ level ∈ filter.walk top,
      level.2.hasConflict = false ∧ level.2.hasEmptyRelation = false := by
  induction filter generalizing depth top with
  | level filter ih =>
    rw [refusal?_eq, Option.or_eq_none_iff, List.findSome?_eq_none_iff, ownFault?_eq_none_iff]
      at passed
    obtain ⟨⟨_, here⟩, below⟩ := passed
    rw [forall_mem_walk_iff]
    exact ⟨here, fun child member => ih child member (below child member) (top + 1)⟩

/-! ### Depths that do not begin again -/

/-- The limit stands before the greatest depth, or no level that the walk reaches stands behind it:
none whose predecessors are all free of faults. -/
def CountsUp (limit depth : Nat) (filter : Filter) : Prop :=
  limit < Text.greatestNatural ∨
    ∀ before level after, filter.walk depth = before ++ level :: after →
      (∀ earlier ∈ before, earlier.2.ownFault? limit earlier.1 = none) →
        level.1 ≤ Text.greatestNatural

theorem countsUp_of_height {limit depth : Nat} {filter : Filter}
    (small : depth + filter.height ≤ Text.greatestNatural) : filter.CountsUp limit depth := by
  refine .inr fun before level after split _ => ?_
  have member : level ∈ filter.walk depth := by
    rw [split]
    exact List.mem_append_right before List.mem_cons_self
  exact Nat.le_trans (le_of_mem_walk level member) small

/-- A child is reached if nothing is wrong with its level and with the children before it. -/
theorem CountsUp.child {limit depth : Nat} {filter : Filter} (counts : filter.CountsUp limit depth)
    (own : filter.ownFault? limit depth = none) {before after : List Filter} {child : Filter}
    (split : filter.children = before ++ child :: after)
    (passed : ∀ earlier ∈ before, earlier.firstFault? limit (depth + 1) = none) :
    deeper depth = depth + 1 ∧ child.CountsUp limit (depth + 1) := by
  rcases counts with bounded | within
  · have here : depth ≤ limit := (ownFault?_eq_none_iff.mp own).1
    exact ⟨deeper_of_lt (Nat.lt_of_le_of_lt here bounded), .inl bounded⟩
  · have reached : ∀ front level back, child.walk (depth + 1) = front ++ level :: back →
        (∀ earlier ∈ front, earlier.2.ownFault? limit earlier.1 = none) →
          level.1 ≤ Text.greatestNatural := by
      intro front level back inside sound
      refine within ((depth, filter) :: (before.flatMap (·.walk (depth + 1)) ++ front)) level
        (back ++ after.flatMap (·.walk (depth + 1))) ?_ ?_
      · rw [walk_eq, split, List.flatMap_append, List.flatMap_cons, inside]
        simp only [List.append_assoc, List.cons_append]
      · rw [List.forall_mem_cons, List.forall_mem_append, List.forall_mem_flatMap]
        exact ⟨own, fun earlier member => firstFault?_eq_none_iff.mp (passed earlier member), sound⟩
    have first : depth + 1 ≤ Text.greatestNatural :=
      reached [] (depth + 1, child) _ (walk_eq (depth + 1) child) (by simp)
    exact ⟨deeper_of_lt first, .inr reached⟩

/-- As long as depths count up, a filter is refused for the first fault of its walk. -/
theorem CountsUp.refusal?_eq {limit depth : Nat} {filter : Filter}
    (counts : filter.CountsUp limit depth) :
    filter.refusal? limit depth = filter.firstFault? limit depth := by
  induction filter generalizing depth with
  | level filter ih =>
    rw [Filter.refusal?_eq, firstFault?_eq]
    cases own : filter.ownFault? limit depth with
    | some error => rfl
    | none =>
      rw [Option.none_or, Option.none_or]
      refine findSome?_congr_of_reached fun before child after split passed => ?_
      obtain ⟨next, below⟩ := counts.child own split passed
      rw [next]
      exact ih child (split ▸ List.mem_append_right before List.mem_cons_self) below

/-- Further up there is more room for the levels below. -/
theorem firstFault?_of_le {limit depth above : Nat} {filter : Filter} (le : above ≤ depth)
    (sound : filter.firstFault? limit depth = none) : filter.firstFault? limit above = none := by
  induction filter generalizing depth above with
  | level filter ih =>
    rw [firstFault?_eq, Option.or_eq_none_iff, List.findSome?_eq_none_iff, ownFault?_eq_none_iff]
      at sound ⊢
    obtain ⟨⟨within, single, full⟩, below⟩ := sound
    refine ⟨⟨Nat.le_trans le within, single, full⟩, fun child member => ?_⟩
    exact ih child member (Nat.succ_le_succ le) (below child member)

/-- No depth exceeds the greatest limit there is. -/
theorem refusal?_of_greatest {limit depth : Nat} (unbounded : Text.greatestNatural ≤ limit)
    (small : depth ≤ Text.greatestNatural) {filter : Filter} {top : Nat}
    (sound : ∀ level ∈ filter.walk top,
      level.2.hasConflict = false ∧ level.2.hasEmptyRelation = false) :
    filter.refusal? limit depth = none := by
  induction filter generalizing depth top with
  | level filter ih =>
    obtain ⟨here, below⟩ := forall_mem_walk_iff.mp sound
    rw [refusal?_eq, Option.or_eq_none_iff, List.findSome?_eq_none_iff, ownFault?_eq_none_iff]
    exact ⟨⟨Nat.le_trans small unbounded, here⟩, fun child member =>
      ih child member (deeper_le depth) (below child member)⟩

/-! ### Filters at the root -/

/-- What is compiled as a part of a filter can be compiled by itself. -/
theorem compile_of_mem_children {lookup : TermLookup} {limit : Nat} {filter child : Filter}
    {group : Group} (compiled : filter.compile lookup limit = .ok group)
    (member : child ∈ filter.children) :
    child.compile lookup limit = .ok (child.assemble lookup) := by
  refine compileAt_eq_ok_iff.mpr ⟨?_, rfl⟩
  have passed : filter.refusal? limit 0 = none := (compileAt_eq_ok_iff.mp compiled).1
  rw [refusal?_eq, Option.or_eq_none_iff, List.findSome?_eq_none_iff] at passed
  have below : child.refusal? limit 1 = none := passed.2 child member
  rcases Nat.lt_or_ge limit Text.greatestNatural with bounded | unbounded
  · have counts (depth : Nat) : child.CountsUp limit depth := .inl bounded
    rw [(counts 1).refusal?_eq] at below
    rw [(counts 0).refusal?_eq]
    exact firstFault?_of_le (Nat.zero_le 1) below
  · exact refusal?_of_greatest unbounded (Nat.zero_le _) (relations_of_refusal? below 0)

theorem compile_of_joining? {filter : Filter} (unjoined : filter.joining? = none)
    (lookup : TermLookup) (limit : Nat) :
    filter.compile lookup limit = .ok (.ofClauses (filter.clauses lookup)) := by
  obtain ⟨tag, category, conjuncts, disjuncts⟩ := filter
  cases conjuncts with
  | some filters => cases unjoined
  | none =>
    cases disjuncts with
    | some filters => cases unjoined
    | none =>
      rw [compile, compileAt, if_neg (Nat.not_lt_zero limit)]
      rfl

/-- Whether a filter is compiled does not depend on the lookup, so two ways to answer it agree if
they do for its groups. -/
theorem map_compile_congr {β : Type} {filter : Filter} {limit : Nat}
    {lookup other : TermLookup} {answer instead : Group → β}
    (same : ∀ group replaced, filter.compile lookup limit = .ok group →
      filter.compile other limit = .ok replaced → instead replaced = answer group) :
    (filter.compile other limit).map instead = (filter.compile lookup limit).map answer := by
  have first : filter.compile lookup limit = _ := compileAt_eq lookup limit 0 filter
  have second : filter.compile other limit = _ := compileAt_eq other limit 0 filter
  cases fault : filter.refusal? limit 0 with
  | some error =>
    rw [fault] at first second
    rw [first, second]
    rfl
  | none =>
    rw [fault] at first second
    rw [first, second]
    exact congrArg Except.ok (same _ _ first second)

end TaxonomyQuery.Filter
