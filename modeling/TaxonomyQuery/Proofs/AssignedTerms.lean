import Mathlib
import TaxonomyQuery.Proofs.BucketCounts
import TaxonomyQuery.Proofs.Selection
/-!
The terms of an item, as conditions and buckets see them. An id that is assigned is never passed
over when it is looked up, so the two taxonomies share out an item's ids between them, and their
buckets count every one.
-/

set_option autoImplicit false

namespace TaxonomyQuery.Catalog

/-! ### The terms of one item -/

theorem Sound.map_id_filterMap_term? {catalog : Catalog} (sound : catalog.Sound) {ids : List Int64}
    (known : ∀ id ∈ ids, catalog.terms.contains id) :
    (ids.filterMap catalog.term?).map (·.id) = ids := by
  induction ids with
  | nil => rfl
  | cons id rest ih =>
    obtain ⟨term, (found : catalog.term? id = some term)⟩ :=
      Table.contains_iff.mp (known id List.mem_cons_self)
    have others := ih fun other member => known other (List.mem_cons_of_mem _ member)
    rw [List.filterMap_cons_some found, List.map_cons, others, sound.term_id found]

/-- A term is in one of the two taxonomies. -/
theorem termsOf_perm (catalog : Catalog) (content : Content) :
    (catalog.termsOf content .tag ++ catalog.termsOf content .category).Perm
      ((content.terms.filterMap catalog.term?).map fun term => (term.id, term.name)) := by
  have other (term : Term) :
      decide (term.taxonomy = .category) = !decide (term.taxonomy = .tag) := by
    cases term.taxonomy <;> rfl
  simp only [termsOf, other, ← List.map_append]
  exact (List.filter_append_perm _ _).map _

theorem Sound.termsOf_ids_perm {catalog : Catalog} (sound : catalog.Sound) {content : Content}
    (present : content ∈ catalog.items.values) :
    ((catalog.termsOf content .tag ++ catalog.termsOf content .category).map (·.1)).Perm
      content.terms := by
  have known := sound.known (sound.mem_items_iff.mp present)
  have listed := (catalog.termsOf_perm content).map (·.1)
  rw [List.map_map] at listed
  exact listed.trans (.of_eq (sound.map_id_filterMap_term? known))

/-! ### The terms that buckets count -/

theorem keys_tally_perm (names : List String) : (tally names).keys.Perm names.dedup := by
  have distinct : (tally names).keys.Nodup :=
    List.pairwise_map.mpr ((tally names).ascending.imp Std.ne_of_lt)
  refine (List.perm_ext_iff_of_nodup distinct names.nodup_dedup).mpr fun name => ?_
  simp only [Table.keys, List.mem_map, Prod.exists, exists_eq_right, exists_and_right,
    Table.mem_entries_iff, get?_tally, List.mem_dedup]
  split <;> simp_all

/-- A tally counts every name of the list. -/
theorem sum_tally (names : List String) : (tally names).values.sum = names.length := by
  have counts : (tally names).values = (tally names).keys.map names.count := by
    simp only [Table.values, Table.keys, List.map_map]
    refine List.map_congr_left fun entry member => ?_
    have found := Table.mem_entries_iff.mp member
    rw [get?_tally] at found
    split at found
    · exact (Option.some.inj found).symm
    · cases found
  rw [counts, ((keys_tally_perm names).map _).sum_eq, List.sum_map_count_dedup_eq_length]

theorem sum_buckets (catalog : Catalog) (taxonomy : Taxonomy) (postType : String)
    (group : Option Group) :
    ((catalog.buckets taxonomy postType group).map (·.count)).sum =
      (catalog.namesOf taxonomy (catalog.query postType (group.getD {}))).length := by
  rw [← sum_tally, buckets, List.map_map]
  rfl

theorem Sound.length_namesOf {catalog : Catalog} (sound : catalog.Sound) {items : List Content}
    (present : ∀ content ∈ items, content ∈ catalog.items.values) :
    (catalog.namesOf .tag items).length + (catalog.namesOf .category items).length =
      (items.map (·.terms.length)).sum := by
  induction items with
  | nil => rfl
  | cons content rest ih =>
    have others := ih fun other member => present other (List.mem_cons_of_mem _ member)
    have here := (sound.termsOf_ids_perm (present content List.mem_cons_self)).length_eq
    simp only [namesOf, List.flatMap_cons, List.length_append, List.length_map, List.map_cons,
      List.sum_cons] at others here ⊢
    omega

/-! ### Every catalog -/

/-- However a catalog came about, as long as ids were left: things stand under their own ids, none
of which exceeds the last one, and items have distinct ids of terms that are there. So an item's
terms are listed in full, each under the taxonomy and the name that the catalog has for it, and the
buckets of the two taxonomies count all that the items found have been given. -/
theorem ReachableWithRoom.representation {catalog : Catalog}
    (reached : catalog.ReachableWithRoom) :
    catalog.Sound ∧ catalog.Bounded ∧
      (∀ content ∈ catalog.items.values,
        ((catalog.termsOf content .tag ++ catalog.termsOf content .category).map (·.1)).Perm
            content.terms ∧
          ∀ taxonomy id name, (id, name) ∈ catalog.termsOf content taxonomy ↔
            id ∈ content.terms ∧ catalog.term? id = some ⟨id, taxonomy, name⟩) ∧
      ∀ postType group,
        ((catalog.buckets .tag postType group).map (·.count)).sum +
            ((catalog.buckets .category postType group).map (·.count)).sum =
          ((catalog.query postType (group.getD {})).map (·.terms.length)).sum := by
  have sound := reached.reachable.sound
  refine ⟨sound, reached.bounded, ?_, ?_⟩
  · intro content present
    exact ⟨sound.termsOf_ids_perm present, fun _ _ _ => sound.mem_termsOf_iff⟩
  · intro postType group
    rw [sum_buckets, sum_buckets]
    exact sound.length_namesOf fun content member => List.mem_of_mem_filter member

theorem ReachableWithRoom.representation_of_grown_snapshot :
    let snapshot : Snapshot :=
      { terms := [⟨7, .tag, "big"⟩, ⟨-3, .category, "animal"⟩]
        items := [⟨7, "post", "cat", [7, -3, 7]⟩] }
    let list : List Change := [.addItem "post" "fern", .assign 8 [-3, 9], .addTerm .tag "green",
      .assign 8 [9, -3, 9]]
    ∃ loaded, ofSnapshot snapshot = .ok loaded ∧
      let catalog := loaded.changes list
      catalog.ReachableWithRoom ∧
        catalog.items.values.map (·.terms) = [[7, -3], [9, -3]] ∧
        catalog.Sound ∧ catalog.Bounded ∧
        (∀ content ∈ catalog.items.values,
          ((catalog.termsOf content .tag ++ catalog.termsOf content .category).map (·.1)).Perm
              content.terms ∧
            ∀ taxonomy id name, (id, name) ∈ catalog.termsOf content taxonomy ↔
              id ∈ content.terms ∧ catalog.term? id = some ⟨id, taxonomy, name⟩) ∧
        ∀ postType group,
          ((catalog.buckets .tag postType group).map (·.count)).sum +
              ((catalog.buckets .category postType group).map (·.count)).sum =
            ((catalog.query postType (group.getD {})).map (·.terms.length)).sum := by
  intro snapshot list
  refine ⟨_, rfl, ?_⟩
  intro catalog
  have loaded : ofSnapshot snapshot = .ok _ := rfl
  have reached : catalog.ReachableWithRoom :=
    (ReachableWithRoom.snapshot loaded).changes (by decide)
  exact ⟨reached, rfl, reached.representation⟩

end TaxonomyQuery.Catalog
