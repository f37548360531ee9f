import Mathlib
import TaxonomyQuery.Catalog.Query
import TaxonomyQuery.Proofs.CatalogInvariant
/-!
What a bucket counts. Names are counted once for each term that an item carries, so a bucket counts
items as long as none of them carries two terms of one name. Terms that are added one by one never
share a name within a taxonomy. Those of a snapshot may.
-/

set_option autoImplicit false

namespace TaxonomyQuery

/-! ### Tallies -/

namespace Catalog

theorem tally_append_singleton (names : List String) (name : String) :
    tally (names ++ [name]) =
      (tally names).insert name (((tally names).get? name).getD 0 + 1) := by
  rw [tally, List.foldl_append]
  rfl

theorem get?_tally (names : List String) (key : String) :
    (tally names).get? key = if key ∈ names then some (names.count key) else none := by
  induction names using List.reverseRecOn with
  | nil => rfl
  | append_singleton names name ih =>
    rw [tally_append_singleton, Table.get?_insert]
    by_cases same : key = name
    · subst same
      rw [if_pos rfl, if_pos (List.mem_append_right _ List.mem_cons_self), List.count_append,
        List.count_singleton_self, ih]
      split
      · rfl
      · rename_i absent
        rw [List.count_eq_zero_of_not_mem absent]
        rfl
    · have others : names.count key = (names ++ [name]).count key := by
        rw [List.count_append, List.count_singleton, beq_false_of_ne (Ne.symm same)]
        rfl
      rw [if_neg same, ih, others]
      simp only [List.mem_append, List.mem_singleton, same, or_false]

theorem mem_buckets_iff {catalog : Catalog} {taxonomy : Taxonomy} {postType : String}
    {group : Option Group} {bucket : Bucket} :
    bucket ∈ catalog.buckets taxonomy postType group ↔
      bucket.key ∈ catalog.namesOf taxonomy (catalog.query postType (group.getD {})) ∧
        bucket.count =
          (catalog.namesOf taxonomy (catalog.query postType (group.getD {}))).count bucket.key := by
  obtain ⟨key, count⟩ := bucket
  simp only [buckets, List.mem_map, Prod.exists, Bucket.mk.injEq, exists_eq_right_right,
    exists_eq_right, Table.mem_entries_iff, get?_tally]
  split
  · rename_i present
    simp only [Option.some.injEq, present, true_and]
    exact eq_comm
  · rename_i absent
    simp only [reduceCtorEq, absent, false_and]

/-! ### Terms of one name -/

/-- The id is that of a term of the taxonomy with the name. -/
def isNamed (catalog : Catalog) (taxonomy : Taxonomy) (name : String) (id : Int64) : Bool :=
  (catalog.term? id).any fun term => term.taxonomy = taxonomy && term.name = name

/-- The item has a term of the taxonomy with the name. -/
def carries (catalog : Catalog) (taxonomy : Taxonomy) (name : String) (content : Content) : Bool :=
  content.terms.any (catalog.isNamed taxonomy name)

theorem count_namesOf (catalog : Catalog) (taxonomy : Taxonomy) (items : List Content)
    (name : String) :
    (catalog.namesOf taxonomy items).count name =
      (items.map fun content => content.terms.countP (catalog.isNamed taxonomy name)).sum := by
  have each (content : Content) : ((catalog.termsOf content taxonomy).map (·.2)).count name =
      content.terms.countP (catalog.isNamed taxonomy name) := by
    simp only [termsOf, List.map_map, List.count, List.countP_map, List.countP_filter,
      List.countP_filterMap]
    congr 1
    funext id
    simp only [isNamed]
    cases catalog.term? id with
    | none => rfl
    | some term => simp [Bool.and_comm, Bool.beq_eq_decide_eq]
  rw [namesOf, List.count_flatMap]
  exact congrArg List.sum (List.map_congr_left fun content _ => each content)

theorem countP_le_one_iff {ids : List Int64} (distinct : ids.Nodup) {test : Int64 → Bool} :
    ids.countP test ≤ 1 ↔
      ∀ first ∈ ids, ∀ second ∈ ids, test first → test second → first = second := by
  rw [List.countP_eq_length_filter, ← List.toFinset_card_of_nodup (distinct.filter test),
    Finset.card_le_one]
  simp only [List.mem_toFinset, List.mem_filter, and_imp]
  constructor
  · intro same first firstIn second secondIn firstFits secondFits
    exact same first firstIn firstFits second secondIn secondFits
  · intro same first firstIn firstFits second secondIn secondFits
    exact same first firstIn second secondIn firstFits secondFits

/-- A sum is at least the number of its summands that are not zero, and that number exactly if none
of them is more than one. -/
theorem sum_eq_countP_iff {α : Type} (list : List α) {count : α → Nat} {test : α → Bool}
    (agree : ∀ entry, test entry ↔ 0 < count entry) :
    list.countP test ≤ (list.map count).sum ∧
      ((list.map count).sum = list.countP test ↔ ∀ entry ∈ list, count entry ≤ 1) := by
  induction list with
  | nil => simp
  | cons first rest ih =>
    obtain ⟨below, equal⟩ := ih
    have head : (if test first then 1 else 0) ≤ count first ∧
        (count first = (if test first then 1 else 0) ↔ count first ≤ 1) := by
      have := agree first
      split
      · rename_i fits
        have := this.mp fits
        omega
      · rename_i misses
        have := mt this.mpr misses
        omega
    rw [List.countP_cons, List.map_cons, List.sum_cons, List.forall_mem_cons, ← equal]
    omega

theorem bucket_count_of_mem {catalog : Catalog} {taxonomy : Taxonomy} {postType : String}
    {group : Option Group} {bucket : Bucket}
    (listed : bucket ∈ catalog.buckets taxonomy postType group) :
    let items := catalog.query postType (group.getD {})
    items.countP (catalog.carries taxonomy bucket.key) ≤ bucket.count ∧
      (bucket.count = items.countP (catalog.carries taxonomy bucket.key) ↔
        ∀ content ∈ items, content.terms.countP (catalog.isNamed taxonomy bucket.key) ≤ 1) := by
  intro items
  have agree (content : Content) : catalog.carries taxonomy bucket.key content ↔
      0 < content.terms.countP (catalog.isNamed taxonomy bucket.key) := by
    rw [carries, List.any_eq_true, List.countP_pos_iff]
  rw [(mem_buckets_iff.mp listed).2, count_namesOf]
  exact sum_eq_countP_iff items agree

theorem Sound.nodup_of_mem_query {catalog : Catalog} (sound : catalog.Sound) {postType : String}
    {group : Group} {content : Content} (member : content ∈ catalog.query postType group) :
    content.terms.Nodup :=
  sound.distinct (sound.mem_items_iff.mp (List.mem_of_mem_filter member))

/-- No bucket counts too few items, and one counts too many exactly if an item found has two terms
of its name. -/
theorem bucket_counts_items_iff {catalog : Catalog} (reachable : catalog.Reachable)
    {taxonomy : Taxonomy} {postType : String} {group : Option Group} {bucket : Bucket}
    (listed : bucket ∈ catalog.buckets taxonomy postType group) :
    let items := catalog.query postType (group.getD {})
    items.countP (catalog.carries taxonomy bucket.key) ≤ bucket.count ∧
      (bucket.count = items.countP (catalog.carries taxonomy bucket.key) ↔
        ∀ content ∈ items, ∀ first ∈ content.terms, ∀ second ∈ content.terms,
          catalog.isNamed taxonomy bucket.key first → catalog.isNamed taxonomy bucket.key second →
            first = second) := by
  intro items
  obtain ⟨enough, exactly⟩ := bucket_count_of_mem listed
  refine ⟨enough, exactly.trans (forall₂_congr fun content member => ?_)⟩
  exact countP_le_one_iff (reachable.sound.nodup_of_mem_query member)

theorem bucket_counts_items_iff_animals :
    let catalog := empty.changes [.addTerm .category "animal", .addTerm .tag "animal",
      .addItem "post" "cat", .addItem "post" "fern", .assign 3 [1, 2]]
    let items := catalog.query "post" {}
    catalog.Reachable ∧ ⟨"animal", 1⟩ ∈ catalog.buckets .category "post" none ∧
      items.countP (catalog.carries .category "animal") ≤ 1 ∧
      (1 = items.countP (catalog.carries .category "animal") ↔
        ∀ content ∈ items, ∀ first ∈ content.terms, ∀ second ∈ content.terms,
          catalog.isNamed .category "animal" first → catalog.isNamed .category "animal" second →
            first = second) :=
  ⟨Reachable.empty.changes _, List.mem_singleton.mpr rfl,
    @bucket_counts_items_iff _ (Reachable.empty.changes _) .category "post" none ⟨"animal", 1⟩
      (List.mem_singleton.mpr rfl)⟩

theorem twin_terms_counted_twice :
    ∃ catalog, ofSnapshot
        { terms := [⟨1, .category, "animal"⟩, ⟨2, .category, "animal"⟩]
          items := [⟨1, "post", "cat", [1, 2]⟩] } = .ok catalog ∧
      catalog.buckets .category "post" none = [⟨"animal", 2⟩] ∧
      (catalog.query "post" {}).length = 1 :=
  ⟨_, rfl, rfl, rfl⟩

/-! ### Terms of different names -/

/-- No two terms of a taxonomy share a name. -/
def NamesDiffer (catalog : Catalog) : Prop :=
  ∀ taxonomy name first second,
    catalog.isNamed taxonomy name first → catalog.isNamed taxonomy name second → first = second

theorem isNamed_insertTerm {catalog : Catalog} {key last : Int64} {term : Term}
    {taxonomy : Taxonomy} {name : String} {id : Int64} :
    isNamed { catalog with terms := catalog.terms.insert key term, lastId := last }
        taxonomy name id ↔
      if id = key then term.taxonomy = taxonomy ∧ term.name = name
      else catalog.isNamed taxonomy name id := by
  rw [isNamed, term?, Table.get?_insert]
  split
  · simp
  · rfl

theorem NamesDiffer.insertTerm {catalog : Catalog} (differ : catalog.NamesDiffer)
    {key last : Int64} {term : Term}
    (free : ∀ id, ¬ catalog.isNamed term.taxonomy term.name id) :
    NamesDiffer { catalog with terms := catalog.terms.insert key term, lastId := last } := by
  intro taxonomy name first second firstNamed secondNamed
  rw [isNamed_insertTerm] at firstNamed secondNamed
  split at firstNamed <;> split at secondNamed
  · rename_i firstNew secondNew
    exact firstNew.trans secondNew.symm
  · obtain ⟨rfl, rfl⟩ := firstNamed
    exact absurd secondNamed (free second)
  · obtain ⟨rfl, rfl⟩ := secondNamed
    exact absurd firstNamed (free first)
  · exact differ _ _ _ _ firstNamed secondNamed

theorem not_isNamed_of_termByName? {catalog : Catalog} {taxonomy : Taxonomy} {name : String}
    (free : catalog.termByName? taxonomy name = none) (id : Int64) :
    ¬ catalog.isNamed taxonomy name id := by
  intro named
  obtain ⟨term, found, fits⟩ := (Option.any_eq_true _ _).mp named
  have present : term ∈ catalog.terms.values := Table.mem_values_iff.mpr ⟨id, found⟩
  exact List.find?_eq_none.mp free term present fits

theorem NamesDiffer.change {catalog : Catalog} (differ : catalog.NamesDiffer) (next : Change) :
    (catalog.change next).NamesDiffer := by
  cases next with
  | addTerm taxonomy name =>
    rw [Catalog.change]
    rcases catalog.addTerm_cases taxonomy name with ⟨term, _, same⟩ | ⟨free, added⟩
    · rw [same]
      exact differ
    · rw [added]
      exact differ.insertTerm (not_isNamed_of_termByName? free)
  | addItem postType title => exact differ
  | assign item ids =>
    rw [change_assign]
    split
    · rename_i after assigned
      obtain ⟨_, content, _, rfl⟩ := assign_eq_ok_iff.mp assigned
      exact differ
    · exact differ

theorem NamesDiffer.changes {catalog : Catalog} (differ : catalog.NamesDiffer)
    (list : List Change) : (catalog.changes list).NamesDiffer := by
  induction list generalizing catalog with
  | nil => exact differ
  | cons first rest ih => exact ih (differ.change first)

theorem namesDiffer_empty : NamesDiffer empty := fun _ _ _ _ named => by cases named

theorem NamesDiffer.loadTerms {catalog after : Catalog} (differ : catalog.NamesDiffer)
    {terms : List Term}
    (distinct : terms.Pairwise fun first second =>
      ¬ (first.taxonomy = second.taxonomy ∧ first.name = second.name))
    (free : ∀ term ∈ terms, ∀ id, ¬ catalog.isNamed term.taxonomy term.name id)
    (loaded : catalog.loadTerms terms = .ok after) : after.NamesDiffer := by
  induction terms generalizing catalog with
  | nil => exact (Except.ok.inj loaded) ▸ differ
  | cons term rest ih =>
    obtain ⟨next, first, others⟩ := loadTerms_cons_eq_ok_iff.mp loaded
    obtain ⟨_, rfl⟩ := loadTerm_eq_ok_iff.mp first
    obtain ⟨apart, distinct⟩ := List.pairwise_cons.mp distinct
    refine ih (differ.insertTerm (free term List.mem_cons_self)) distinct ?_ others
    intro other member id named
    rw [isNamed_insertTerm] at named
    split at named
    · exact apart other member named
    · exact free other (List.mem_cons_of_mem _ member) id named

theorem namesDiffer_ofSnapshot {snapshot : Snapshot} {catalog : Catalog}
    (distinct : snapshot.terms.Pairwise fun first second =>
      ¬ (first.taxonomy = second.taxonomy ∧ first.name = second.name))
    (loaded : ofSnapshot snapshot = .ok catalog) : catalog.NamesDiffer := by
  obtain ⟨filled, first, others⟩ := ofSnapshot_eq_ok_iff.mp loaded
  have differ : filled.NamesDiffer :=
    namesDiffer_empty.loadTerms distinct (fun _ _ _ named => by cases named) first
  refine loadItems_induction (fun {catalog after content} differ next => ?_) differ others
  obtain ⟨_, _, rfl⟩ := loadItem_eq_ok_iff.mp next
  exact differ

/-- Where names differ each bucket counts the items that carry a term of its name. -/
theorem NamesDiffer.bucket_count_eq {catalog : Catalog} (differ : catalog.NamesDiffer)
    (reachable : catalog.Reachable) {taxonomy : Taxonomy} {postType : String}
    {group : Option Group} {bucket : Bucket}
    (listed : bucket ∈ catalog.buckets taxonomy postType group) :
    bucket.count =
      (catalog.query postType (group.getD {})).countP (catalog.carries taxonomy bucket.key) := by
  refine (bucket_count_of_mem listed).2.mpr fun content member => ?_
  rw [countP_le_one_iff (reachable.sound.nodup_of_mem_query member)]
  exact fun first _ second _ => differ taxonomy bucket.key first second

end Catalog

end TaxonomyQuery
