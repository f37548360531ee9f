import TaxonomyQuery.Catalog.Query
import TaxonomyQuery.Proofs.CatalogInvariant
import TaxonomyQuery.Proofs.CompiledMeaning
/-!
What a query finds: the items of the type that the filter holds of, where patterns are compared with
the names of an item's own terms. The compiled group never sees those names. It compares ids that
the lookup has collected over the whole catalog.
-/

set_option autoImplicit false

namespace TaxonomyQuery

/-- A pattern fits the terms in whose names it stands. -/
def TermSource.nameTest (source : TermSource) : PatternTest := fun taxonomy pattern =>
  (source taxonomy).any fun term => fitsPattern pattern term.2

/-! ### The order of a record's terms -/

section Order

variable {source other : TermSource}
  (same : ∀ taxonomy term, term ∈ source taxonomy ↔ term ∈ other taxonomy)

include same

theorem TermSource.any_congr (taxonomy : Taxonomy) (test : Int64 × String → Bool) :
    (source taxonomy).any test = (other taxonomy).any test := by
  rw [Bool.eq_iff_iff, List.any_eq_true, List.any_eq_true]
  simp only [same]

theorem TermSource.nameTest_congr : source.nameTest = other.nameTest := by
  funext taxonomy pattern
  exact any_congr same taxonomy _

theorem Filter.predicatesHold_congr (fits : PatternTest) (filter : Filter) :
    filter.predicatesHold fits source = filter.predicatesHold fits other := by
  have predicates (taxonomy : Taxonomy) (predicate : FieldPredicate) :
      predicate.holds fits source taxonomy = predicate.holds fits other taxonomy := by
    simp only [FieldPredicate.holds, TermSource.any_congr same]
  simp only [predicatesHold, predicates]

/-- A filter sees which terms a record has, not how they are listed. -/
theorem Filter.holds_congr (fits : PatternTest) (filter : Filter) :
    filter.holds fits source = filter.holds fits other := by
  induction filter with
  | level filter ih =>
    rw [holds_eq, holds_eq, predicatesHold_congr same, conjuncts_all_congr ih,
      disjuncts_any_congr ih]

end Order

namespace Catalog

/-- The terms of the catalog whose ids an item has been given. -/
def carried (catalog : Catalog) (content : Content) : TermSource := fun taxonomy =>
  ((catalog.termsIn taxonomy).filter fun term => content.terms.contains term.id).map fun term =>
    (term.id, term.name)

/-! ### Terms by id and by name -/

namespace Sound

variable {catalog : Catalog} (sound : catalog.Sound) {taxonomy : Taxonomy} {id : Int64}
  {name : String}

include sound

theorem mem_termsIn_iff {term : Term} :
    term ∈ catalog.termsIn taxonomy ↔
      catalog.term? term.id = some term ∧ term.taxonomy = taxonomy := by
  rw [termsIn, List.mem_filter, sound.mem_terms_iff, decide_eq_true_eq]

theorem mem_lookup_iff {pattern : String} :
    id ∈ catalog.lookup taxonomy pattern ↔
      ∃ name, catalog.term? id = some ⟨id, taxonomy, name⟩ ∧ fitsPattern pattern name := by
  simp only [lookup, List.mem_map, List.mem_filter, sound.mem_termsIn_iff]
  constructor
  · rintro ⟨⟨_, _, name⟩, ⟨⟨found, rfl⟩, fits⟩, rfl⟩
    exact ⟨name, found, fits⟩
  · rintro ⟨name, found, fits⟩
    exact ⟨⟨id, taxonomy, name⟩, ⟨⟨found, rfl⟩, fits⟩, rfl⟩

theorem mem_termsOf_iff {content : Content} :
    (id, name) ∈ catalog.termsOf content taxonomy ↔
      id ∈ content.terms ∧ catalog.term? id = some ⟨id, taxonomy, name⟩ := by
  simp only [termsOf, List.mem_map, List.mem_filter, List.mem_filterMap, decide_eq_true_eq,
    Prod.mk.injEq]
  constructor
  · rintro ⟨term, ⟨⟨key, assigned, found⟩, rfl⟩, rfl, rfl⟩
    obtain rfl := sound.term_id found
    exact ⟨assigned, found⟩
  · rintro ⟨assigned, found⟩
    exact ⟨⟨id, taxonomy, name⟩, ⟨⟨id, assigned, found⟩, rfl⟩, rfl, rfl⟩

theorem mem_carried_iff {content : Content} :
    (id, name) ∈ catalog.carried content taxonomy ↔
      id ∈ content.terms ∧ catalog.term? id = some ⟨id, taxonomy, name⟩ := by
  simp only [carried, List.mem_map, List.mem_filter, sound.mem_termsIn_iff,
    List.contains_iff_mem, Prod.mk.injEq]
  constructor
  · rintro ⟨⟨_, _, _⟩, ⟨⟨found, rfl⟩, assigned⟩, rfl, rfl⟩
    exact ⟨assigned, found⟩
  · rintro ⟨assigned, found⟩
    exact ⟨⟨id, taxonomy, name⟩, ⟨⟨found, rfl⟩, assigned⟩, rfl, rfl⟩

/-- Comparing with the ids that the lookup finds is comparing with the names: an id belongs to one
term, so a term that fits the pattern is not mistaken for another. -/
theorem lookup_test_eq (content : Content) :
    catalog.lookup.test (catalog.termsOf content) = (catalog.termsOf content).nameTest := by
  funext taxonomy pattern
  rw [Bool.eq_iff_iff]
  simp only [TermLookup.test, TermSource.nameTest, List.any_eq_true, decide_eq_true_eq,
    sound.mem_lookup_iff, Prod.exists, sound.mem_termsOf_iff]
  constructor
  · rintro ⟨_, ⟨name, found, fits⟩, id, _, ⟨assigned, _⟩, rfl⟩
    exact ⟨id, name, ⟨assigned, found⟩, fits⟩
  · rintro ⟨id, name, ⟨assigned, found⟩, fits⟩
    exact ⟨id, ⟨name, found, fits⟩, id, name, ⟨assigned, found⟩, rfl⟩

/-- The clauses of a compiled filter, asked about the terms of an item, give what the filter says of
these terms. -/
theorem compiled_accepts_own {filter : Filter} {limit depth : Nat} {group : Group}
    (compiled : filter.compileAt catalog.lookup limit depth = .ok group) (content : Content) :
    group.accepts (catalog.termsOf content) =
      filter.holds (catalog.termsOf content).nameTest (catalog.termsOf content) := by
  obtain ⟨passed, rfl⟩ := Filter.compileAt_eq_ok_iff.mp compiled
  rw [Filter.assemble_accepts _ _ (Filter.hasConflict_of_refusal? passed),
    sound.lookup_test_eq]

theorem compiled_accepts_termsOf {filter : Filter} {limit depth : Nat} {group : Group}
    (compiled : filter.compileAt catalog.lookup limit depth = .ok group) (content : Content) :
    group.accepts (catalog.termsOf content) =
      filter.holds (catalog.carried content).nameTest (catalog.carried content) := by
  have same : ∀ taxonomy term, term ∈ catalog.termsOf content taxonomy ↔
      term ∈ catalog.carried content taxonomy := fun taxonomy ⟨id, name⟩ => by
    rw [sound.mem_termsOf_iff, sound.mem_carried_iff]
  rw [sound.compiled_accepts_own compiled, TermSource.nameTest_congr same,
    Filter.holds_congr same]

end Sound

/-! ### Queries -/

/-- A query lists, in ascending order of ids and each once, exactly the items of its type whose own
terms satisfy the filter that the group was compiled from. -/
theorem query_lists_exactly {catalog : Catalog} (reachable : catalog.Reachable) {filter : Filter}
    {limit depth : Nat} {group : Group}
    (compiled : filter.compileAt catalog.lookup limit depth = .ok group) (postType : String) :
    (catalog.query postType group).Pairwise (fun first second => first.id < second.id) ∧
      ∀ content, content ∈ catalog.query postType group ↔
        content ∈ catalog.items.values ∧ content.postType = postType ∧
          filter.holds (catalog.carried content).nameTest (catalog.carried content) := by
  have sound := reachable.sound
  refine ⟨sound.items_ascending.filter _, fun content => ?_⟩
  rw [query, List.mem_filter, Bool.and_eq_true, decide_eq_true_eq,
    sound.compiled_accepts_termsOf compiled]

theorem query_lists_exactly_animals :
    let catalog := empty.changes [.addTerm .category "Animal", .addTerm .tag "big",
      .addItem "post" "cat", .addItem "post" "fern", .assign 3 [1, 2]]
    let filter : Filter :=
      { category := some { name := some { like := some "NIM" } }
        disjuncts := some [{ tag := some { name := some { notLike := some "x" } } }] }
    let group : Group := ⟨some .and, [.clause ⟨.category, .id, .ids [1], .isIn⟩,
      .group (some .or) [.group (some .and) [.clause ⟨.tag, .id, .ids [], .notIn⟩]]]⟩
    catalog.Reachable ∧ filter.compileAt catalog.lookup 2 0 = .ok group ∧
      (catalog.query "post" group).map (·.title) = ["cat"] ∧
      (catalog.query "post" group).Pairwise (fun first second => first.id < second.id) ∧
      ∀ content, content ∈ catalog.query "post" group ↔
        content ∈ catalog.items.values ∧ content.postType = "post" ∧
          filter.holds (catalog.carried content).nameTest (catalog.carried content) :=
  ⟨Reachable.empty.changes _, rfl, rfl,
    @query_lists_exactly _ (Reachable.empty.changes _) _ 2 0 _ rfl "post"⟩

end Catalog

end TaxonomyQuery
