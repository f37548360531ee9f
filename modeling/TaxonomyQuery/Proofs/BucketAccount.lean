import Mathlib.Data.List.Basic
import TaxonomyQuery.Proofs.AssignedTerms
/-!
Buckets as an account of what a query has found: which names there are, in which order, and how the
counts come from the terms that the items found have been given.
-/

set_option autoImplicit false

namespace TaxonomyQuery.Catalog

/-- Which items have been given which terms, by their ids. -/
def assignments (items : List Content) : List (Int64 × Int64) :=
  items.flatMap fun content => content.terms.map fun id => (content.id, id)

/-- The id is that of a term of the taxonomy. -/
def isOf (catalog : Catalog) (taxonomy : Taxonomy) (id : Int64) : Bool :=
  (catalog.term? id).any fun term => term.taxonomy = taxonomy

theorem nodup_assignments {items : List Content}
    (apart : items.Pairwise fun first second => first.id ≠ second.id)
    (distinct : ∀ content ∈ items, content.terms.Nodup) : (assignments items).Nodup := by
  refine List.nodup_flatMap.mpr ⟨fun content member => ?_, apart.imp fun different => ?_⟩
  · exact (distinct content member).map fun _ _ same => congrArg Prod.snd same
  · rintro ⟨item, id⟩ here there
    obtain ⟨_, _, first⟩ := List.mem_map.mp here
    obtain ⟨_, _, second⟩ := List.mem_map.mp there
    exact different ((congrArg Prod.fst first).trans (congrArg Prod.fst second).symm)

theorem countP_assignments (items : List Content) (test : Int64 → Bool) :
    (assignments items).countP (fun pair => test pair.2) =
      (items.map fun content => content.terms.countP test).sum := by
  rw [assignments, List.countP_flatMap]
  simp only [Function.comp_def, List.countP_map]

variable (catalog : Catalog)

theorem count_namesOf_eq_countP (taxonomy : Taxonomy) (items : List Content) (name : String) :
    (catalog.namesOf taxonomy items).count name =
      (assignments items).countP fun pair => catalog.isNamed taxonomy name pair.2 := by
  rw [count_namesOf, countP_assignments]

theorem length_namesOf_eq_countP (taxonomy : Taxonomy) (items : List Content) :
    (catalog.namesOf taxonomy items).length =
      (assignments items).countP fun pair => catalog.isOf taxonomy pair.2 := by
  have each (content : Content) : ((catalog.termsOf content taxonomy).map (·.2)).length =
      content.terms.countP (catalog.isOf taxonomy) := by
    rw [List.length_map, termsOf, List.length_map, ← List.countP_eq_length_filter,
      List.countP_filterMap]
    congr 1
    funext id
    rw [isOf]
    cases catalog.term? id <;> rfl
  rw [namesOf, List.length_flatMap, countP_assignments]
  simp only [each]

theorem buckets_ascending (taxonomy : Taxonomy) (postType : String) (group : Option Group) :
    (catalog.buckets taxonomy postType group).Pairwise fun first second =>
      first.key < second.key := by
  rw [buckets, List.pairwise_map]
  exact Table.ascending _

variable {catalog}

theorem exists_bucket_iff {taxonomy : Taxonomy} {postType : String} {group : Option Group}
    {key : String} :
    (∃ bucket ∈ catalog.buckets taxonomy postType group, bucket.key = key) ↔
      key ∈ catalog.namesOf taxonomy (catalog.query postType (group.getD {})) := by
  constructor
  · rintro ⟨bucket, listed, rfl⟩
    exact (mem_buckets_iff.mp listed).1
  · intro named
    let count := (catalog.namesOf taxonomy (catalog.query postType (group.getD {}))).count key
    exact ⟨⟨key, count⟩, mem_buckets_iff.mpr ⟨named, rfl⟩, rfl⟩

theorem Sound.mem_namesOf_iff (sound : catalog.Sound) {taxonomy : Taxonomy} {items : List Content}
    {name : String} :
    name ∈ catalog.namesOf taxonomy items ↔
      ∃ content ∈ items, ∃ id ∈ content.terms, catalog.term? id = some ⟨id, taxonomy, name⟩ := by
  simp only [namesOf, List.mem_flatMap, List.mem_map, Prod.exists, exists_eq_right,
    sound.mem_termsOf_iff]

theorem query_eq_of_mem_iff {postType : String} {first second : Group}
    (same : ∀ content, content ∈ catalog.query postType first ↔
      content ∈ catalog.query postType second) :
    catalog.query postType first = catalog.query postType second := by
  apply List.filter_congr
  intro content member
  simpa only [query, List.mem_filter, member, true_and, ← Bool.eq_iff_iff] using same content

theorem buckets_eq_of_mem_iff {postType : String} {first second : Group}
    (same : ∀ content, content ∈ catalog.query postType first ↔
      content ∈ catalog.query postType second) (taxonomy : Taxonomy) :
    catalog.buckets taxonomy postType (some first) =
      catalog.buckets taxonomy postType (some second) := by
  rw [buckets, buckets, Option.getD_some, Option.getD_some, query_eq_of_mem_iff same]

/-- The buckets of a taxonomy over what a query finds. They stand in the order of their names, each
name once. A name has a bucket exactly if an item found has been given a term of that name, and is
counted once for each such item and term, so that all counts together are the number of the terms of
the taxonomy that the items found have been given. Without a group the items are those of the empty
group, and groups that find the same items have the same buckets. -/
theorem buckets_account_for_query {catalog : Catalog} (reachable : catalog.Reachable)
    (taxonomy : Taxonomy) (postType : String) (group : Option Group) :
    let items := catalog.query postType (group.getD {})
    let buckets := catalog.buckets taxonomy postType group
    (buckets.Pairwise fun first second => first.key < second.key) ∧
      (∀ key, (∃ bucket ∈ buckets, bucket.key = key) ↔
        ∃ content ∈ items, ∃ id ∈ content.terms,
          catalog.term? id = some ⟨id, taxonomy, key⟩) ∧
      (assignments items).Nodup ∧
      (∀ bucket ∈ buckets, 0 < bucket.count ∧ bucket.count =
        (assignments items).countP fun pair => catalog.isNamed taxonomy bucket.key pair.2) ∧
      (buckets.map (·.count)).sum =
        (assignments items).countP (fun pair => catalog.isOf taxonomy pair.2) ∧
      catalog.buckets taxonomy postType none = catalog.buckets taxonomy postType (some {}) ∧
      ∀ first second, (∀ content, content ∈ catalog.query postType first ↔
          content ∈ catalog.query postType second) →
        catalog.buckets taxonomy postType (some first) =
          catalog.buckets taxonomy postType (some second) := by
  intro items buckets
  have sound := reachable.sound
  refine ⟨catalog.buckets_ascending taxonomy postType group, fun key => ?_, ?distinct,
    fun bucket listed => ?counted, ?sum, rfl, fun first second same =>
      buckets_eq_of_mem_iff same taxonomy⟩
  · rw [exists_bucket_iff, sound.mem_namesOf_iff]
  case distinct =>
    apply nodup_assignments
    · exact (sound.items_ascending.filter _).imp Std.ne_of_lt
    · exact fun content member => sound.nodup_of_mem_query member
  case counted =>
    obtain ⟨named, count⟩ := mem_buckets_iff.mp listed
    rw [← count_namesOf_eq_countP, count]
    exact ⟨List.count_pos_iff.mpr named, rfl⟩
  case sum =>
    rw [sum_buckets, length_namesOf_eq_countP]

/-- An item with two terms of one name, and a group that selects all items. -/
theorem buckets_account_for_query_of_twins :
    let snapshot : Snapshot :=
      { terms := [⟨2, .category, "animal"⟩, ⟨1, .category, "animal"⟩]
        items := [⟨7, "post", "cat", [1, 2]⟩, ⟨5, "post", "fern", [2]⟩] }
    let group : Group := ⟨none, [.clause ⟨.category, .id, .ids [2], .isIn⟩]⟩
    ∃ catalog, ofSnapshot snapshot = .ok catalog ∧ catalog.Reachable ∧
      let items := catalog.query "post" {}
      let buckets := catalog.buckets .category "post" none
      assignments items = [(5, 2), (7, 1), (7, 2)] ∧ buckets = [⟨"animal", 3⟩] ∧
        (buckets.Pairwise fun first second => first.key < second.key) ∧
        ((∃ bucket ∈ buckets, bucket.key = "animal") ↔
          ∃ content ∈ items, ∃ id ∈ content.terms,
            catalog.term? id = some ⟨id, .category, "animal"⟩) ∧
        (buckets.map (·.count)).sum =
          (assignments items).countP (fun pair => catalog.isOf .category pair.2) ∧
        items = catalog.query "post" group ∧
        catalog.buckets .category "post" (some {}) =
          catalog.buckets .category "post" (some group) := by
  intro snapshot group
  have loaded : ofSnapshot snapshot = .ok _ := rfl
  have reachable := Reachable.snapshot loaded
  obtain ⟨ascending, present, _, _, sum, _, alike⟩ :=
    buckets_account_for_query reachable .category "post" none
  exact ⟨_, loaded, reachable, rfl, rfl, ascending, present "animal", sum, rfl,
    alike {} group fun _ => .rfl⟩

end TaxonomyQuery.Catalog
