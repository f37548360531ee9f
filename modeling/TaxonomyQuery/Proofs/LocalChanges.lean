import Mathlib.Data.List.Basic
import TaxonomyQuery.Proofs.Growth
import TaxonomyQuery.Proofs.Selection
/-!
How far a change reaches. A new term is on no item, so neither selections nor counts see it, with
whichever catalog a filter is compiled. What happens to an item leaves the terms alone, and with them
what filters are compiled to and which of the other items are selected.
-/

set_option autoImplicit false

namespace TaxonomyQuery

namespace Catalog

/-! ### A term that is added -/

/-- The same items, each with the terms it had. -/
structure SameRecords (catalog after : Catalog) : Prop where
  items : after.items = catalog.items
  terms : ∀ content ∈ catalog.items.values, after.termsOf content = catalog.termsOf content

theorem Sound.termsOf_of_continues {catalog after : Catalog} (sound : catalog.Sound)
    (continued : catalog.Continues after) {content : Content}
    (member : content ∈ catalog.items.values) :
    after.termsOf content = catalog.termsOf content := by
  have found : ∀ id ∈ content.terms, after.term? id = catalog.term? id := by
    intro id assigned
    obtain ⟨term, present⟩ := Table.contains_iff.mp
      (sound.known (sound.mem_items_iff.mp member) id assigned)
    exact (continued.term present).trans present.symm
  funext taxonomy
  rw [termsOf, termsOf, List.filterMap_congr found]

theorem sameRecords_addTerm {catalog : Catalog} (reached : catalog.ReachableWithRoom)
    {taxonomy : Taxonomy} {name : String} (room : catalog.HasRoomFor (.addTerm taxonomy name)) :
    catalog.SameRecords (catalog.change (.addTerm taxonomy name)) where
  items := by
    rw [change]
    rcases catalog.addTerm_cases taxonomy name with ⟨term, _, same⟩ | ⟨_, added⟩
    · rw [same]
    · rw [added]
  terms content member :=
    reached.reachable.sound.termsOf_of_continues (continues_change reached room) member

namespace SameRecords

variable {catalog after : Catalog} (same : catalog.SameRecords after) {group replaced : Group}
  (agree : ∀ content ∈ catalog.items.values,
    replaced.accepts (catalog.termsOf content) = group.accepts (catalog.termsOf content))

include same agree

theorem query_eq (postType : String) :
    after.query postType replaced = catalog.query postType group := by
  rw [query, query, same.items]
  apply List.filter_congr
  intro content member
  rw [same.terms content member, agree content member]

theorem namesOf_query_eq (taxonomy : Taxonomy) (postType : String) :
    after.namesOf taxonomy (after.query postType replaced) =
      catalog.namesOf taxonomy (catalog.query postType group) := by
  rw [same.query_eq agree, namesOf, namesOf]
  apply List.flatMap_congr
  intro content member
  rw [same.terms content (List.mem_of_mem_filter member)]

theorem buckets_eq (taxonomy : Taxonomy) (postType : String) :
    after.buckets taxonomy postType (some replaced) =
      catalog.buckets taxonomy postType (some group) := by
  have names := same.namesOf_query_eq agree taxonomy postType
  rw [buckets, buckets, Option.getD_some, Option.getD_some, names]

end SameRecords

/-- With either catalog a filter is compiled to a group that accepts the same records. -/
theorem SameRecords.accepts_eq {catalog after known : Catalog} (same : catalog.SameRecords after)
    (sound : catalog.Sound) (soundAfter : after.Sound) (either : known ∈ [catalog, after])
    {filter : Filter} {limit : Nat} {group replaced : Group}
    (compiled : filter.compile catalog.lookup limit = .ok group)
    (recompiled : filter.compile known.lookup limit = .ok replaced) :
    ∀ content ∈ catalog.items.values,
      replaced.accepts (catalog.termsOf content) = group.accepts (catalog.termsOf content) := by
  intro content member
  rw [sound.compiled_accepts_own compiled]
  rcases List.mem_pair.mp either with rfl | rfl
  · exact sound.compiled_accepts_own recompiled content
  · rw [← same.terms content member]
    exact soundAfter.compiled_accepts_own recompiled content

/-! ### An item that is added or given terms -/

/-- The item that a change is about. -/
def touched? (catalog : Catalog) : Change → Option Int64
  | .addTerm _ _ => none
  | .addItem postType title => some (catalog.addItem postType title).1
  | .assign item _ => some item

/-- Only the one item may differ. -/
structure SameBut (item : Int64) (catalog after : Catalog) : Prop where
  terms : after.terms = catalog.terms
  items : ∀ other, other ≠ item → after.item? other = catalog.item? other

theorem sameBut_change {catalog : Catalog} {next : Change} {item : Int64}
    (touched : catalog.touched? next = some item) :
    SameBut item catalog (catalog.change next) := by
  cases next with
  | addTerm taxonomy name => cases touched
  | addItem postType title =>
    obtain rfl := Option.some.inj touched
    exact ⟨rfl, fun other different => Table.get?_insert_of_ne _ different _⟩
  | assign changed ids =>
    obtain rfl := Option.some.inj touched
    rw [change_assign]
    split
    · rename_i after assigned
      obtain ⟨_, content, _, rfl⟩ := assign_eq_ok_iff.mp assigned
      exact ⟨rfl, fun other different => Table.get?_insert_of_ne _ different _⟩
    · exact ⟨rfl, fun _ _ => rfl⟩

namespace SameBut

variable {item : Int64} {catalog after : Catalog} (same : SameBut item catalog after)

include same

theorem lookup_eq : after.lookup = catalog.lookup := by
  funext taxonomy pattern
  rw [lookup, lookup, termsIn, termsIn, same.terms]

theorem termsOf_eq (content : Content) : after.termsOf content = catalog.termsOf content := by
  funext taxonomy
  have found : after.term? = catalog.term? := by
    funext id
    rw [term?, term?, same.terms]
  rw [termsOf, termsOf, found]

theorem mem_query_iff (sound : catalog.Sound) (soundAfter : after.Sound) {content : Content}
    (different : content.id ≠ item) (postType : String) (group : Group) :
    content ∈ after.query postType group ↔ content ∈ catalog.query postType group := by
  rw [query, query, List.mem_filter, List.mem_filter, sound.mem_items_iff,
    soundAfter.mem_items_iff, same.items content.id different, same.termsOf_eq]

end SameBut

/-! ### Every change -/

/-- A change is seen where it is made and nowhere else. After a term is added a filter selects what
it did before, and the counts of every taxonomy are what they were, with whichever of the two
catalogs it is compiled. After an item is added or given terms a filter is compiled to the same
group, and selects the same among all other items. Where terms cannot be assigned nothing happens. -/
theorem changes_are_local {catalog : Catalog} (reached : catalog.ReachableWithRoom)
    (filter : Filter) (limit : Nat) (postType : String) :
    (∀ taxonomy name, catalog.HasRoomFor (.addTerm taxonomy name) →
      let after := catalog.change (.addTerm taxonomy name)
      (∀ known ∈ [catalog, after],
        (filter.compile known.lookup limit).map (after.query postType) =
            (filter.compile catalog.lookup limit).map (catalog.query postType) ∧
          ∀ counted,
            (filter.compile known.lookup limit).map
                (fun group => after.buckets counted postType (some group)) =
              (filter.compile catalog.lookup limit).map
                (fun group => catalog.buckets counted postType (some group))) ∧
        ∀ counted, after.buckets counted postType none = catalog.buckets counted postType none) ∧
    (∀ next item, catalog.touched? next = some item →
      let after := catalog.change next
      filter.compile after.lookup limit = filter.compile catalog.lookup limit ∧
        ∀ group, filter.compile catalog.lookup limit = .ok group →
          ∀ content, content.id ≠ item →
            (content ∈ after.query postType group ↔ content ∈ catalog.query postType group)) ∧
    ∀ item ids error, catalog.assign item ids = .error error →
      ∀ group, (catalog.change (.assign item ids)).query postType group =
        catalog.query postType group := by
  have sound := reached.reachable.sound
  refine ⟨?added, ?touched, ?failed⟩
  case added =>
    intro taxonomy name room after
    have same : catalog.SameRecords after := sameRecords_addTerm reached room
    refine ⟨fun known either => ⟨?_, fun counted => ?_⟩, fun counted => ?_⟩
    · apply Filter.map_compile_congr
      intro group replaced compiled recompiled
      exact same.query_eq (same.accepts_eq sound (sound.change _) either compiled recompiled) _
    · apply Filter.map_compile_congr
      intro group replaced compiled recompiled
      exact same.buckets_eq (same.accepts_eq sound (sound.change _) either compiled recompiled) _ _
    · exact same.buckets_eq (fun _ _ => rfl) counted postType
  case touched =>
    intro next item touched after
    have same : SameBut item catalog after := sameBut_change touched
    refine ⟨by rw [same.lookup_eq], fun group _ content different => ?_⟩
    exact same.mem_query_iff sound (sound.change next) different postType group
  case failed =>
    intro item ids error failed group
    rw [change_assign, failed]

/-- A filter that names the id to come, with a pattern that fits the name to come. -/
theorem changes_are_local_of_name_to_come :
    let catalog := empty.changes [.addTerm .category "animal", .addItem "post" "cat",
      .addItem "post" "fern", .assign 2 [1]]
    let filter : Filter :=
      { category := some
          { name := some { like := some "AN" }, id := some { notEqual := some 4 } } }
    let addition : Change := .addTerm .category "plant"
    let after := catalog.change addition
    let assignment : Change := .assign 3 [1]
    let failing : Change := .assign 3 [4]
    catalog.ReachableWithRoom ∧ catalog.HasRoomFor addition ∧
      catalog.lookup .category "AN" = [1] ∧ after.lookup .category "AN" = [1, 4] ∧
      (filter.compile catalog.lookup 0).map
        (fun group => (catalog.query "post" group).map (·.title)) = .ok ["cat"] ∧
      (filter.compile after.lookup 0).map (after.query "post") =
        (filter.compile catalog.lookup 0).map (catalog.query "post") ∧
      catalog.touched? assignment = some 3 ∧
      (∀ group, filter.compile catalog.lookup 0 = .ok group → ∀ content, content.id ≠ 3 →
        (content ∈ (catalog.change assignment).query "post" group ↔
          content ∈ catalog.query "post" group)) ∧
      catalog.assign 3 [4] = .error (.unknownTerm 4) ∧
      ∀ group, (catalog.change failing).query "post" group = catalog.query "post" group := by
  intro catalog filter addition after assignment failing
  have reached : catalog.ReachableWithRoom := ReachableWithRoom.empty.changes (by decide)
  have room : catalog.HasRoomFor addition := by decide
  have fits : catalog.lookup .category "AN" = [1] ∧ after.lookup .category "AN" = [1, 4] := by
    dsimp only [after, addition, catalog]
    exact ⟨rfl, rfl⟩
  obtain ⟨added, touched, failed⟩ := changes_are_local reached filter 0 "post"
  have selected := ((added .category "plant" room).1 after (by simp [after, addition])).1
  exact ⟨reached, room, fits.1, fits.2, rfl, selected, rfl, (touched assignment 3 rfl).2, rfl,
    failed 3 [4] (.unknownTerm 4) rfl⟩

end Catalog

end TaxonomyQuery
