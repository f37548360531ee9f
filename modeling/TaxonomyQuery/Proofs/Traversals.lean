import Mathlib.Data.List.Chain
import Mathlib.Order.Bounds.Defs
import TaxonomyQuery.Proofs.ClauseTree
/-!
What is counted of a group agrees with what is listed of it: as many clauses as there are in the list,
which can be gathered in one pass, and as many groups inside one another as stand in the longest chain
of them.
-/

set_option autoImplicit false

namespace TaxonomyQuery

/-! ### One pass -/

namespace Item

mutual

/-- Puts the clauses of an item behind those that have been gathered before. -/
def gather : List Clause → Item → List Clause
  | sofar, .clause single => sofar ++ [single]
  | sofar, .group _ items => gatherItems sofar items

def gatherItems : List Clause → List Item → List Clause
  | sofar, [] => sofar
  | sofar, item :: rest => gatherItems (item.gather sofar) rest

end

theorem gatherItems_eq_append {items : List Item}
    (each : ∀ item ∈ items, ∀ sofar, item.gather sofar = sofar ++ item.clauses)
    (sofar : List Clause) : gatherItems sofar items = sofar ++ itemsClauses items := by
  induction items generalizing sofar with
  | nil => rw [gatherItems, itemsClauses, List.append_nil]
  | cons item rest ih =>
    obtain ⟨first, others⟩ := List.forall_mem_cons.mp each
    rw [gatherItems, first, ih others, itemsClauses, List.append_assoc]

theorem gather_eq_append (item : Item) (sofar : List Clause) :
    item.gather sofar = sofar ++ item.clauses := by
  induction item generalizing sofar with
  | clause single => rw [gather, clauses_clause]
  | group relation items ih => rw [gather, clauses, gatherItems_eq_append ih]

end Item

/-! ### Chains of groups -/

namespace Group

def Contains (outer inner : Group) : Prop := inner.toItem ∈ outer.items

/-- So many steps lead down from the group, each from one group to another that it contains. -/
def HasChain (group : Group) (steps : Nat) : Prop :=
  ∃ below : List Group, below.length = steps ∧ (group :: below).IsChain Contains

theorem hasChain_zero (group : Group) : group.HasChain 0 :=
  ⟨[], rfl, List.IsChain.singleton group⟩

theorem hasChain_succ_iff {group : Group} {steps : Nat} :
    group.HasChain (steps + 1) ↔ ∃ inner, group.Contains inner ∧ inner.HasChain steps := by
  constructor
  · rintro ⟨_ | ⟨inner, below⟩, length, chain⟩
    · cases length
    · obtain ⟨contained, further⟩ := List.isChain_cons_cons.mp chain
      exact ⟨inner, contained, below, Nat.succ.inj length, further⟩
  · rintro ⟨inner, contained, below, rfl, chain⟩
    exact ⟨inner :: below, rfl, List.isChain_cons_cons.mpr ⟨contained, chain⟩⟩

theorem lt_nestingDepth_iff {group : Group} {bound : Nat} :
    bound < group.nestingDepth ↔ ∃ inner, group.Contains inner ∧ bound ≤ inner.nestingDepth := by
  rw [← Nat.not_le, nestingDepth_le_iff]
  constructor
  · intro deeper
    obtain ⟨item, listed, deep⟩ : ∃ item ∈ group.items, bound < item.depth := by
      simpa only [not_forall, exists_prop, Nat.not_le] using deeper
    cases item with
    | clause single => exact absurd (Item.depth_clause_le single bound) (Nat.not_le.mpr deep)
    | group relation items =>
      have inside : bound < (toItem ⟨relation, items⟩).depth := deep
      rw [depth_toItem] at inside
      exact ⟨⟨relation, items⟩, listed, Nat.le_of_lt_succ inside⟩
  · rintro ⟨inner, contained, deep⟩ bounded
    have within := bounded inner.toItem contained
    rw [depth_toItem] at within
    omega

/-- Chains are as long as the nesting is deep, or shorter. -/
theorem hasChain_iff {group : Group} {steps : Nat} :
    group.HasChain steps ↔ steps ≤ group.nestingDepth := by
  induction steps generalizing group with
  | zero => exact iff_of_true group.hasChain_zero (Nat.zero_le _)
  | succ steps ih => simp only [hasChain_succ_iff, ih, Nat.succ_le_iff, lt_nestingDepth_iff]

/-- The clauses that are counted are those that are listed, and those that one pass gathers. The depth
is that of the longest chain of groups, whether or not there are clauses in them. As a conjunct a group
has the same clauses, and is deeper only where it had to be put into another group. -/
theorem traversals_agree (group : Group) :
    group.clauseCount = group.clauses.length ∧
      (∀ sofar, Item.gatherItems sofar group.items = sofar ++ group.clauses) ∧
      IsGreatest {steps | group.HasChain steps} group.nestingDepth ∧
      group.toConjunct.clauseCount = group.clauseCount ∧
      group.toConjunct.clauses = group.clauses ∧
      group.toConjunct.nestingDepth =
        if group.relation = some .or then group.nestingDepth + 1 else group.nestingDepth := by
  have kept := group.toConjunct_clauses
  refine ⟨group.length_clauses.symm, ?_, ?_, ?_, kept, group.nestingDepth_toConjunct⟩
  · exact Item.gatherItems_eq_append fun item _ => item.gather_eq_append
  · exact ⟨hasChain_iff.mpr (Nat.le_refl _), fun steps chain => hasChain_iff.mp chain⟩
  · rw [← length_clauses, kept, length_clauses]

example : nestingDepth ⟨none, [.group (some .and) [.group (some .or) []]]⟩ = 2 := rfl

end Group

end TaxonomyQuery
