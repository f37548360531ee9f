import TaxonomyQuery.Proofs.BucketCounts
import TaxonomyQuery.Proofs.CompiledMeaning
/-!
Sums over what filters select. What one of two filters asks for and what both ask for add up to what
the first and the second ask for; a comparison and its opposite divide the items of a type between
them. Both hold of the number of items and of the count under every name, where a name without a
bucket counts nothing.
-/

set_option autoImplicit false

namespace TaxonomyQuery

/-! ### Totals -/

namespace Catalog

/-- The count of the bucket of a name, or nothing if there is none. -/
def countUnder (catalog : Catalog) (taxonomy : Taxonomy) (postType : String) (group : Option Group)
    (key : String) : Nat :=
  ((catalog.buckets taxonomy postType group).find? (·.key = key)).elim 0 (·.count)

/-- The sum of a weight over the items that a group selects. -/
def total (catalog : Catalog) (weight : Content → Nat) (postType : String) (group : Group) : Nat :=
  ((catalog.query postType group).map weight).sum

theorem countUnder_eq_count (catalog : Catalog) (taxonomy : Taxonomy) (postType : String)
    (group : Option Group) (key : String) :
    catalog.countUnder taxonomy postType group key =
      (catalog.namesOf taxonomy (catalog.query postType (group.getD {}))).count key := by
  have found : catalog.countUnder taxonomy postType group key =
      ((tally (catalog.namesOf taxonomy
        (catalog.query postType (group.getD {})))).get? key).getD 0 := by
    rw [countUnder, buckets, List.find?_map, Option.elim_map, Table.get?]
    show ((tally _).entries.find? (·.1 = key)).elim 0 (·.2) = _
    cases List.find? _ _ <;> rfl
  rw [found, get?_tally]
  split
  · rfl
  · rename_i absent
    exact (List.count_eq_zero_of_not_mem absent).symm

theorem countUnder_eq_total (catalog : Catalog) (taxonomy : Taxonomy) (postType : String)
    (group : Option Group) (key : String) :
    catalog.countUnder taxonomy postType group key =
      catalog.total (fun content => ((catalog.termsOf content taxonomy).map (·.2)).count key)
        postType (group.getD {}) := by
  rw [countUnder_eq_count, namesOf, List.count_flatMap, total]
  rfl

theorem length_query_eq_total (catalog : Catalog) (postType : String) (group : Group) :
    (catalog.query postType group).length = catalog.total (fun _ => 1) postType group := by
  simp [total]

theorem sum_map_filter {α : Type} (weight : α → Nat) (test : α → Bool) (list : List α) :
    ((list.filter test).map weight).sum =
      (list.map fun entry => (test entry).toNat * weight entry).sum := by
  induction list with
  | nil => rfl
  | cons first rest ih =>
    rw [List.map_cons, List.sum_cons, ← ih]
    cases fits : test first <;> simp [fits]

theorem total_eq_sum (catalog : Catalog) (weight : Content → Nat) (postType : String)
    (group : Group) :
    catalog.total weight postType group =
      ((catalog.items.values.filter (·.postType = postType)).map fun content =>
        (group.accepts (catalog.termsOf content)).toNat * weight content).sum := by
  rw [total, query, ← sum_map_filter, List.filter_filter]
  simp only [Bool.and_comm]

section Sums

variable {one other : Group} (catalog : Catalog) (weight : Content → Nat) (postType : String)

/-- Whatever both accept is counted once with either and once more with both. -/
theorem total_either_add_both {either both : Group}
    (union : ∀ source, either.accepts source = (one.accepts source || other.accepts source))
    (common : ∀ source, both.accepts source = (one.accepts source && other.accepts source)) :
    catalog.total weight postType either + catalog.total weight postType both =
      catalog.total weight postType one + catalog.total weight postType other := by
  have balanced (source : TermSource) :
      (either.accepts source).toNat + (both.accepts source).toNat =
        (one.accepts source).toNat + (other.accepts source).toNat := by
    rw [union, common]
    cases one.accepts source <;> cases other.accepts source <;> rfl
  simp only [total_eq_sum, ← List.sum_map_add, ← Nat.add_mul, balanced]

theorem total_add_opposite
    (opposite : ∀ source, other.accepts source = !one.accepts source) :
    catalog.total weight postType one + catalog.total weight postType other =
      catalog.total weight postType {} := by
  have divided (source : TermSource) :
      (one.accepts source).toNat + (other.accepts source).toNat =
        (Group.accepts {} source).toNat := by
    rw [opposite, Group.accepts_unrelated]
    cases one.accepts source <;> rfl
  simp only [total_eq_sum, ← List.sum_map_add, ← Nat.add_mul, divided]

end Sums

end Catalog

/-! ### One of two filters, and both -/

namespace Filter

variable (lookup : TermLookup) (source : TermSource) (first second : Filter)

theorem either_accepts :
    (assemble lookup { disjuncts := some [first, second] }).accepts source =
      ((first.assemble lookup).accepts source || (second.assemble lookup).accepts source) := by
  have joined : assemble lookup { disjuncts := some [first, second] } =
      .ofChildren .or [first.assemble lookup, second.assemble lookup] := assemble_eq lookup _
  rw [joined, Group.ofChildren_or_accepts]
  simp

theorem both_accepts :
    (assemble lookup { conjuncts := some [first, second] }).accepts source =
      ((first.assemble lookup).accepts source && (second.assemble lookup).accepts source) := by
  have joined : assemble lookup { conjuncts := some [first, second] } =
      .ofChildren .and [first.assemble lookup, second.assemble lookup] := assemble_eq lookup _
  rw [joined, Group.ofChildren_and_accepts]
  simp

end Filter

/-! ### A comparison and its opposite -/

/-- A comparison with an argument, and the one that refuses what it asks for. -/
inductive OperatorSet.Opposite {α : Type} : OperatorSet α → OperatorSet α → Prop where
  | isIn (argument : OneOrMany α) : Opposite { isIn := some argument } { notIn := some argument }
  | like (pattern : α) : Opposite { like := some pattern } { notLike := some pattern }
  | equal (single : α) : Opposite { equal := some single } { notEqual := some single }

/-- The filter that asks for a predicate of one taxonomy and nothing else. -/
def Filter.ofPredicate (predicate : FieldPredicate) : Taxonomy → Filter
  | .tag => { tag := some predicate }
  | .category => { category := some predicate }

/-- Filters that compare one field, of which the second refuses what the first asks for. -/
inductive Filter.Opposite : Filter → Filter → Prop where
  | name (taxonomy : Taxonomy) {asked refused : OperatorSet String}
      (opposite : asked.Opposite refused) :
      Opposite (ofPredicate { name := some asked } taxonomy)
        (ofPredicate { name := some refused } taxonomy)
  | id (taxonomy : Taxonomy) {asked refused : OperatorSet Int64}
      (opposite : asked.Opposite refused) :
      Opposite (ofPredicate { id := some asked } taxonomy)
        (ofPredicate { id := some refused } taxonomy)

theorem Filter.Opposite.joining? {asked refused : Filter} (opposite : asked.Opposite refused) :
    asked.joining? = none ∧ refused.joining? = none := by
  cases opposite with
  | name taxonomy _ => cases taxonomy <;> exact ⟨rfl, rfl⟩
  | id taxonomy _ => cases taxonomy <;> exact ⟨rfl, rfl⟩

theorem Filter.Opposite.clauses_eq {asked refused : Filter} (opposite : asked.Opposite refused)
    (lookup : TermLookup) :
    ∃ clause : Clause, asked.clauses lookup = [{ clause with operator := .isIn }] ∧
      refused.clauses lookup = [{ clause with operator := .notIn }] := by
  cases opposite with
  | name taxonomy opposite =>
    cases taxonomy <;> cases opposite <;> exact ⟨⟨_, _, _, .isIn⟩, rfl, rfl⟩
  | id taxonomy opposite =>
    cases taxonomy <;> cases opposite <;> exact ⟨⟨_, _, _, .isIn⟩, rfl, rfl⟩

/-- What is refused of a record is what is not asked of it. -/
theorem Filter.Opposite.accepts_eq {asked refused : Filter} (opposite : asked.Opposite refused)
    (lookup : TermLookup) (source : TermSource) :
    (Group.ofClauses (refused.clauses lookup)).accepts source =
      !(Group.ofClauses (asked.clauses lookup)).accepts source := by
  obtain ⟨clause, isIn, notIn⟩ := opposite.clauses_eq lookup
  rw [isIn, notIn, Group.ofClauses_accepts, Group.ofClauses_accepts]
  simp [Clause.accepts]

/-! ### The sums -/

namespace Catalog

theorem mem_query_iff {catalog : Catalog} {postType : String} {group : Group} {content : Content} :
    content ∈ catalog.query postType group ↔
      (content ∈ catalog.items.values ∧ content.postType = postType) ∧
        group.accepts (catalog.termsOf content) := by
  rw [query, List.mem_filter, Bool.and_eq_true, decide_eq_true_eq, and_assoc]

theorem query_empty (catalog : Catalog) (postType : String) :
    catalog.query postType {} = catalog.items.values.filter (·.postType = postType) := by
  have every (source : TermSource) : Group.accepts {} source = true := Group.accepts_unrelated _ _
  simp only [query, every, Bool.and_true]

/-- Counts and numbers of items add up. If one of two filters is asked for, and both of them, then
either of them can be compiled alone, and what is found sums to what the two find one by one. A
comparison and its opposite with the same argument find no item in common and between them all of
the type, so that what they find sums to what is found without a filter. -/
theorem counts_add_up (catalog : Catalog) (limit : Nat) (postType : String) :
    (∀ (first second : Filter) (either both : Group),
      Filter.compile catalog.lookup limit { disjuncts := some [first, second] } = .ok either →
      Filter.compile catalog.lookup limit { conjuncts := some [first, second] } = .ok both →
      ∃ one other, first.compile catalog.lookup limit = .ok one ∧
        second.compile catalog.lookup limit = .ok other ∧
        (∀ taxonomy key,
          catalog.countUnder taxonomy postType (some either) key +
              catalog.countUnder taxonomy postType (some both) key =
            catalog.countUnder taxonomy postType (some one) key +
              catalog.countUnder taxonomy postType (some other) key) ∧
        (catalog.query postType either).length + (catalog.query postType both).length =
          (catalog.query postType one).length + (catalog.query postType other).length) ∧
    ∀ asked refused : Filter, asked.Opposite refused →
      ∃ one other, asked.compile catalog.lookup limit = .ok one ∧
        refused.compile catalog.lookup limit = .ok other ∧
        (∀ content ∈ catalog.query postType one, content ∉ catalog.query postType other) ∧
        (∀ content, content ∈ catalog.query postType one ∨ content ∈ catalog.query postType other ↔
          content ∈ catalog.items.values ∧ content.postType = postType) ∧
        (∀ taxonomy key,
          catalog.countUnder taxonomy postType (some one) key +
              catalog.countUnder taxonomy postType (some other) key =
            catalog.countUnder taxonomy postType none key) ∧
        (catalog.query postType one).length + (catalog.query postType other).length =
          (catalog.items.values.filter (·.postType = postType)).length := by
  constructor
  · intro first second either both compiledEither compiledBoth
    have compiledFirst := Filter.compile_of_mem_children compiledEither
      (List.mem_append_right [] List.mem_cons_self)
    have compiledSecond := Filter.compile_of_mem_children compiledEither
      (List.mem_append_right [] (List.mem_cons_of_mem first List.mem_cons_self))
    obtain ⟨_, rfl⟩ := Filter.compileAt_eq_ok_iff.mp compiledEither
    obtain ⟨_, rfl⟩ := Filter.compileAt_eq_ok_iff.mp compiledBoth
    have sums (weight : Content → Nat) := catalog.total_either_add_both weight postType
      (Filter.either_accepts catalog.lookup · first second)
      (Filter.both_accepts catalog.lookup · first second)
    refine ⟨_, _, compiledFirst, compiledSecond, fun taxonomy key => ?_, ?_⟩
    · simp only [countUnder_eq_total]
      exact sums _
    · simp only [length_query_eq_total]
      exact sums _
  · intro asked refused opposite
    have unjoined := opposite.joining?
    have accepted := opposite.accepts_eq catalog.lookup
    have sums (weight : Content → Nat) := catalog.total_add_opposite weight postType accepted
    refine ⟨_, _, Filter.compile_of_joining? unjoined.1 _ _,
      Filter.compile_of_joining? unjoined.2 _ _, ?apart, ?complete, fun taxonomy key => ?_, ?_⟩
    case apart =>
      intro content selected
      rw [mem_query_iff] at selected ⊢
      simp [accepted, selected.2]
    case complete =>
      intro content
      rw [mem_query_iff, mem_query_iff, ← and_or_left, accepted]
      simp
    · simp only [countUnder_eq_total]
      exact sums _
    · simp only [← query_empty, length_query_eq_total]
      exact sums _

theorem counts_add_up_of_big_animals :
    let catalog := empty.changes [.addTerm .category "animal", .addTerm .tag "big",
      .addItem "post" "cat", .addItem "post" "whale", .addItem "post" "oak",
      .assign 3 [1], .assign 4 [1, 2], .assign 5 [2]]
    let animal : Filter := { category := some { name := some { like := some "ANI" } } }
    let other : Filter := { category := some { name := some { notLike := some "ANI" } } }
    let big : Filter := { disjuncts := some [{ tag := some { id := some { equal := some 2 } } }] }
    let either := Filter.assemble catalog.lookup { disjuncts := some [animal, big] }
    let both := Filter.assemble catalog.lookup { conjuncts := some [animal, big] }
    let count (group : Group) := catalog.countUnder .tag "post" (some group) "big"
    let found (group : Group) := (catalog.query "post" group).length
    Filter.compile catalog.lookup 2 { disjuncts := some [animal, big] } = .ok either ∧
      Filter.compile catalog.lookup 2 { conjuncts := some [animal, big] } = .ok both ∧
      count either = 2 ∧ count both = 1 ∧
      (∃ one second, animal.compile catalog.lookup 2 = .ok one ∧
        big.compile catalog.lookup 2 = .ok second ∧
        count either + count both = count one + count second ∧
        found either + found both = found one + found second) ∧
      animal.Opposite other ∧
      ∃ one second, animal.compile catalog.lookup 2 = .ok one ∧
        other.compile catalog.lookup 2 = .ok second ∧
        found one + found second =
          (catalog.items.values.filter (·.postType = "post")).length := by
  intro catalog animal other big either both count found
  obtain ⟨added, divided⟩ := counts_add_up catalog 2 "post"
  have opposite : animal.Opposite other := .name .category (.like "ANI")
  obtain ⟨one, second, compiledOne, compiledSecond, counts, sizes⟩ :=
    added animal big either both rfl rfl
  obtain ⟨asked, refused, compiledAsked, compiledRefused, _, _, _, divided⟩ :=
    divided animal other opposite
  have twice : count either = 2 := by
    dsimp only [count, either, big, animal, catalog]
    cbv
  have once : count both = 1 := by
    dsimp only [count, both, big, animal, catalog]
    cbv
  exact ⟨rfl, rfl, twice, once,
    ⟨one, second, compiledOne, compiledSecond, counts .tag "big", sizes⟩,
    opposite, asked, refused, compiledAsked, compiledRefused, divided⟩

end Catalog

end TaxonomyQuery
