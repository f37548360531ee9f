import Mathlib.Data.List.Basic
import TaxonomyQuery.Proofs.FirstFault
/-!
What the limit of levels does to compiling: it cuts off and nothing else. Whatever is found within a
limit is found within every greater one, and only how far the limit lies below the root of the
filter counts.
-/

set_option autoImplicit false

namespace TaxonomyQuery

/-- The error with another limit named in it, if it names one. -/
def FilterError.citing (limit : Nat) : FilterError → FilterError
  | .depthExceeded _ => .depthExceeded limit
  | error => error

namespace Filter

/-! ### A greater limit -/

theorem ownFault?_eq_depthExceeded_iff {limit depth cited : Nat} {filter : Filter} :
    filter.ownFault? limit depth = some (.depthExceeded cited) ↔ cited = limit ∧ limit < depth := by
  unfold ownFault?
  split
  · rename_i deep
    simp [deep, eq_comm]
  · rename_i within
    split
    · simp [within]
    · split <;> simp [within]

theorem ownFault?_of_le {limit further depth : Nat} (within : depth ≤ limit)
    (le : limit ≤ further) (filter : Filter) :
    filter.ownFault? further depth = filter.ownFault? limit depth := by
  rw [ownFault?, ownFault?, if_neg (Nat.not_lt.mpr within),
    if_neg (Nat.not_lt.mpr (Nat.le_trans within le))]

/-- Where no level is too deep, a greater limit finds the same. Depths may begin again here: they
do so at the same levels. -/
theorem refusal?_of_le_limit {limit further depth : Nat} {filter : Filter} (le : limit ≤ further)
    (uncut : ∀ cited, filter.refusal? limit depth ≠ some (.depthExceeded cited)) :
    filter.refusal? further depth = filter.refusal? limit depth := by
  induction filter generalizing depth with
  | level filter ih =>
    simp only [refusal?_eq limit depth] at uncut ⊢
    rw [refusal?_eq further]
    have within : depth ≤ limit := by
      refine Nat.not_lt.mp fun deep => uncut limit ?_
      rw [ownFault?_eq_depthExceeded_iff.mpr ⟨rfl, deep⟩, Option.some_or]
    rw [ownFault?_of_le within le]
    cases own : filter.ownFault? limit depth with
    | some error => rfl
    | none =>
      rw [own, Option.none_or] at uncut
      rw [Option.none_or, Option.none_or]
      refine findSome?_congr_of_reached fun before child after split passed => ?_
      refine ih child (split ▸ List.mem_append_right before List.mem_cons_self) fun cited cut => ?_
      exact uncut cited (List.findSome?_eq_some_iff.mpr ⟨before, child, after, split, cut, passed⟩)

/-! ### Depth and limit shifted together -/

theorem walk_add (shift depth : Nat) (filter : Filter) :
    filter.walk (depth + shift) =
      (filter.walk depth).map fun level => (level.1 + shift, level.2) := by
  induction filter generalizing depth with
  | level filter ih =>
    rw [walk_eq, walk_eq, List.map_cons, List.map_flatMap]
    congr 1
    apply List.flatMap_congr
    intro child member
    rw [Nat.add_right_comm]
    exact ih child member (depth + 1)

theorem ownFault?_add (shift limit depth : Nat) (filter : Filter) :
    filter.ownFault? (limit + shift) (depth + shift) =
      (filter.ownFault? limit depth).map (.citing (limit + shift)) := by
  simp only [ownFault?, Nat.add_lt_add_iff_right]
  split
  · rfl
  · split
    · rfl
    · split <;> rfl

theorem firstFault?_add (shift limit depth : Nat) (filter : Filter) :
    filter.firstFault? (limit + shift) (depth + shift) =
      (filter.firstFault? limit depth).map (.citing (limit + shift)) := by
  rw [firstFault?, firstFault?, walk_add, List.findSome?_map, List.map_findSome?]
  congr 1
  funext level
  exact ownFault?_add shift limit level.1 level.2

theorem CountsUp.of_add {shift limit depth : Nat} {filter : Filter}
    (counts : filter.CountsUp (limit + shift) (depth + shift)) : filter.CountsUp limit depth := by
  rcases counts with bounded | within
  · exact .inl (Nat.lt_of_le_of_lt (Nat.le_add_right limit shift) bounded)
  · refine .inr fun before level after split sound => ?_
    let shifted : Nat × Filter → Nat × Filter := fun level => (level.1 + shift, level.2)
    have moved : filter.walk (depth + shift) =
        before.map shifted ++ shifted level :: after.map shifted := by
      rw [walk_add, split, List.map_append, List.map_cons]
    have further : level.1 + shift ≤ Text.greatestNatural := by
      refine within (before.map shifted) (shifted level) (after.map shifted) moved ?_
      rw [List.forall_mem_map]
      intro earlier member
      rw [ownFault?_add, sound earlier member, Option.map_none]
    exact Nat.le_trans (Nat.le_add_right level.1 shift) further

theorem compileAt_add (lookup : TermLookup) {shift limit depth : Nat} {filter : Filter}
    (counts : filter.CountsUp (limit + shift) (depth + shift)) :
    filter.compileAt lookup (limit + shift) (depth + shift) =
      (filter.compileAt lookup limit depth).mapError (.citing (limit + shift)) := by
  rw [compileAt_eq, compileAt_eq, counts.refusal?_eq, counts.of_add.refusal?_eq, firstFault?_add]
  cases filter.firstFault? limit depth <;> rfl

/-- A filter is cut off where its walk goes below the limit before it meets any other fault, and is
then refused for that limit. Where it is not cut off, every greater limit gives the same group or
the same error. Depth and limit may be shifted together: only the limit that is named changes, so a
filter further down is compiled like one at the root under what is left of the limit. Depths have to
count up for all but the second of these. -/
theorem limit_only_cuts_off (lookup : TermLookup) (limit depth : Nat) (filter : Filter) :
    (filter.CountsUp limit depth →
      ∀ cited, filter.compileAt lookup limit depth = .error (.depthExceeded cited) ↔
        cited = limit ∧ ∃ before level after, filter.walk depth = before ++ level :: after ∧
          (∀ earlier ∈ before, earlier.2.ownFault? limit earlier.1 = none) ∧ limit < level.1) ∧
    (∀ further, limit ≤ further →
      (∀ cited, filter.compileAt lookup limit depth ≠ .error (.depthExceeded cited)) →
      filter.compileAt lookup further depth = filter.compileAt lookup limit depth) ∧
    (∀ shift, filter.CountsUp (limit + shift) (depth + shift) →
      filter.compileAt lookup (limit + shift) (depth + shift) =
        (filter.compileAt lookup limit depth).mapError (.citing (limit + shift))) ∧
    (filter.CountsUp limit depth → depth ≤ limit → filter.compileAt lookup limit depth =
      (filter.compile lookup (limit - depth)).mapError (.citing limit)) := by
  refine ⟨?cut, ?further, fun shift counts => compileAt_add lookup counts, ?root⟩
  case cut =>
    intro counts cited
    rw [compileAt_eq_error_iff, counts.refusal?_eq, firstFault?_eq_some_iff]
    simp only [ownFault?_eq_depthExceeded_iff]
    constructor
    · rintro ⟨before, level, after, split, sound, same, deep⟩
      exact ⟨same, before, level, after, split, sound, deep⟩
    · rintro ⟨same, before, level, after, split, sound, deep⟩
      exact ⟨before, level, after, split, sound, same, deep⟩
  case further =>
    intro further le uncut
    simp only [ne_eq, compileAt_eq_error_iff] at uncut
    rw [compileAt_eq, compileAt_eq, refusal?_of_le_limit le uncut]
  case root =>
    intro counts within
    have moved : filter.CountsUp (limit - depth + depth) (0 + depth) := by
      rwa [Nat.sub_add_cancel within, Nat.zero_add]
    have shifted := compileAt_add lookup moved
    rwa [Nat.sub_add_cancel within, Nat.zero_add] at shifted

/-- A limit that the second child goes below, but not before the first one is found empty. -/
theorem limit_only_cuts_off_after_empty_relation :
    let tower : Filter := { conjuncts := some [{ disjuncts := some [{}] }] }
    let filter : Filter := { disjuncts := some [{ conjuncts := some [] }, tower] }
    filter.compileAt .none 3 2 = .error .emptyRelation ∧
      filter.compileAt .none 4 2 = .error .emptyRelation ∧
      tower.compileAt .none 3 2 = .error (.depthExceeded 3) ∧
      tower.compileAt .none 8 7 = .error (.depthExceeded 8) ∧
      filter.compileAt .none 4 2 = filter.compileAt .none 3 2 ∧
      tower.compileAt .none 8 7 = (tower.compileAt .none 3 2).mapError (.citing 8) ∧
      tower.compileAt .none 3 2 = (tower.compile .none 1).mapError (.citing 3) := by
  intro tower filter
  have refused : filter.compileAt .none 3 2 = .error .emptyRelation := rfl
  obtain ⟨_, further, _, _⟩ := limit_only_cuts_off .none 3 2 filter
  obtain ⟨_, _, shifted, root⟩ := limit_only_cuts_off .none 3 2 tower
  exact ⟨refused, rfl, rfl, rfl, further 4 (by decide) (by simp [refused]),
    shifted 5 (.inl (by decide)), root (.inl (by decide)) (by decide)⟩

end Filter

end TaxonomyQuery
