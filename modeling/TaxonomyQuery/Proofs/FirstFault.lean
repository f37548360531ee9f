import TaxonomyQuery.Proofs.Assembly
/-!
What compiling reports. The first faulty level of the walk decides, and there is none exactly if the
relations reach no deeper than the limit and each level has at most one, with filters in it.
-/

set_option autoImplicit false

namespace TaxonomyQuery.Filter

/-- Where every relation has a filter, the deepest level of a walk stands at the filter's height. -/
theorem forall_walk_le_iff {limit depth : Nat} {filter : Filter}
    (full : ∀ level ∈ filter.walk depth, level.2.hasEmptyRelation = false) :
    (∀ level ∈ filter.walk depth, level.1 ≤ limit) ↔ depth + filter.height ≤ limit := by
  induction filter generalizing depth with
  | level filter ih =>
    obtain ⟨(fullHere : filter.hasEmptyRelation = false), fullBelow⟩ := forall_mem_walk_iff.mp full
    have below : (∀ child ∈ filter.children, ∀ level ∈ child.walk (depth + 1), level.1 ≤ limit) ↔
        ∀ child ∈ filter.children, depth + 1 + child.height ≤ limit := by
      constructor
      · intro within child member
        exact (ih child member (fullBelow child member)).mp (within child member)
      · intro within child member
        exact (ih child member (fullBelow child member)).mpr (within child member)
    rw [forall_mem_walk_iff, below]
    constructor
    · rintro ⟨here, deeper⟩
      have height : filter.height ≤ limit - depth := by
        apply (height_le_iff fullHere).mpr
        intro child member
        have := deeper child member
        omega
      omega
    · intro within
      refine ⟨by omega, ?_⟩
      intro child member
      have := (height_le_iff fullHere).mp (Nat.le_refl _) child member
      omega

theorem firstFault?_eq_some_iff {limit depth : Nat} {filter : Filter} {error : FilterError} :
    filter.firstFault? limit depth = some error ↔
      ∃ before level after, filter.walk depth = before ++ level :: after ∧
        (∀ earlier ∈ before, earlier.2.ownFault? limit earlier.1 = none) ∧
        level.2.ownFault? limit level.1 = some error := by
  rw [firstFault?, List.findSome?_eq_some_iff]
  constructor
  · rintro ⟨before, level, after, split, fault, sound⟩
    exact ⟨before, level, after, split, sound, fault⟩
  · rintro ⟨before, level, after, split, sound, fault⟩
    exact ⟨before, level, after, split, fault, sound⟩

theorem ownFault?_ne_invalidInput (limit depth : Nat) (filter : Filter) (error : DecodeError) :
    filter.ownFault? limit depth ≠ some (.invalidInput error) := by
  unfold ownFault?
  split
  · simp
  · split
    · simp
    · split <;> simp

/-- No fault of a walk in terms of the tree as a whole. -/
theorem firstFault?_eq_none_iff_height {limit depth : Nat} {filter : Filter} :
    filter.firstFault? limit depth = none ↔
      depth + filter.height ≤ limit ∧
        ∀ level ∈ filter.walk depth,
          level.2.hasConflict = false ∧ level.2.hasEmptyRelation = false := by
  simp only [firstFault?_eq_none_iff, ownFault?_eq_none_iff]
  constructor
  · intro sound
    refine ⟨(forall_walk_le_iff fun level member => (sound level member).2.2).mp
      fun level member => (sound level member).1, ?_⟩
    intro level member
    exact (sound level member).2
  · rintro ⟨within, sound⟩ level member
    have shallow := (forall_walk_le_iff fun level member => (sound level member).2).mpr within
    exact ⟨shallow level member, sound level member⟩

/-- As long as depths count up, a filter is refused for the first fault that the walk meets, and
compiled if it meets none: never for what could not be read, and exactly if the tree is no higher
than the limit allows and no level has two relations or an empty one. -/
theorem compileAt_reports_first_fault (lookup : TermLookup) (limit depth : Nat) (filter : Filter)
    (counts : filter.CountsUp limit depth) :
    (∀ error, filter.compileAt lookup limit depth = .error error ↔
      ∃ before level after, filter.walk depth = before ++ level :: after ∧
        (∀ earlier ∈ before, earlier.2.ownFault? limit earlier.1 = none) ∧
        level.2.ownFault? limit level.1 = some error) ∧
    ((∃ group, filter.compileAt lookup limit depth = .ok group) ↔
      ∀ level ∈ filter.walk depth, level.2.ownFault? limit level.1 = none) ∧
    (∀ error, filter.compileAt lookup limit depth ≠ .error (.invalidInput error)) ∧
    ((∃ group, filter.compileAt lookup limit depth = .ok group) ↔
      depth + filter.height ≤ limit ∧
        ∀ level ∈ filter.walk depth,
          level.2.hasConflict = false ∧ level.2.hasEmptyRelation = false) := by
  have compiled : (∃ group, filter.compileAt lookup limit depth = .ok group) ↔
      filter.firstFault? limit depth = none := by
    simp only [compileAt_eq_ok_iff, counts.refusal?_eq, exists_and_left, exists_eq, and_true]
  refine ⟨?_, compiled.trans firstFault?_eq_none_iff, ?_,
    compiled.trans firstFault?_eq_none_iff_height⟩
  · intro error
    rw [compileAt_eq_error_iff, counts.refusal?_eq, firstFault?_eq_some_iff]
  · intro error refused
    rw [compileAt_eq_error_iff, counts.refusal?_eq] at refused
    obtain ⟨_, level, _, _, _, fault⟩ := firstFault?_eq_some_iff.mp refused
    exact ownFault?_ne_invalidInput limit level.1 level.2 error fault

/-- A level that is too deep, then two relations at once on a level above it. -/
theorem compileAt_reports_first_fault_of_two :
    let deep : Filter := { tag := some {}, conjuncts := some [{}] }
    let twofold : Filter := { conjuncts := some [], disjuncts := some [{}] }
    let filter : Filter := { disjuncts := some [{}, deep, twofold] }
    filter.CountsUp 3 2 ∧
      filter.compileAt .none 3 2 = .error (.depthExceeded 3) ∧
      filter.walk 2 = [(2, filter), (3, {}), (3, deep)] ++ (4, {}) :: [(3, twofold), (4, {})] ∧
      ¬∃ group, filter.compileAt .none 3 2 = .ok group := by
  intro deep twofold filter
  have counts : filter.CountsUp 3 2 := .inl (by decide)
  have split : filter.walk 2 =
      [(2, filter), (3, {}), (3, deep)] ++ (4, {}) :: [(3, twofold), (4, {})] := rfl
  obtain ⟨reported, _, _, accepted⟩ := compileAt_reports_first_fault .none 3 2 filter counts
  refine ⟨counts, (reported (.depthExceeded 3)).mpr ⟨_, _, _, split, ?_, rfl⟩, split, ?_⟩
  · simp only [List.forall_mem_cons]
    exact ⟨rfl, rfl, rfl, by simp⟩
  · rw [accepted]
    exact fun sound => absurd sound.1 (by decide)

end TaxonomyQuery.Filter
