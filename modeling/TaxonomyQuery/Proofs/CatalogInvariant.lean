import TaxonomyQuery.Proofs.CatalogSteps
/-!
What every catalog keeps, however it came about: each thing stands under its own id, and items refer
to terms that are there, to none of them twice. As long as ids are left, no id is greater than the
last one.
-/

set_option autoImplicit false

namespace TaxonomyQuery.Catalog

structure Sound (catalog : Catalog) : Prop where
  term_id : ∀ {key : Int64} {term : Term}, catalog.term? key = some term → term.id = key
  item_id : ∀ {key : Int64} {content : Content}, catalog.item? key = some content → content.id = key
  distinct : ∀ {key : Int64} {content : Content}, catalog.item? key = some content →
    content.terms.Nodup
  known : ∀ {key : Int64} {content : Content}, catalog.item? key = some content →
    ∀ id ∈ content.terms, catalog.terms.contains id

structure Bounded (catalog : Catalog) : Prop where
  nonneg : 0 ≤ catalog.lastId
  term_le : ∀ {key : Int64} {term : Term}, catalog.term? key = some term → key ≤ catalog.lastId
  item_le : ∀ {key : Int64} {content : Content}, catalog.item? key = some content →
    key ≤ catalog.lastId

namespace Sound

variable {catalog : Catalog} (sound : catalog.Sound)

include sound

theorem mem_terms_iff {term : Term} :
    term ∈ catalog.terms.values ↔ catalog.term? term.id = some term := by
  rw [Table.mem_values_iff]
  constructor
  · rintro ⟨key, found⟩
    exact (sound.term_id found).symm ▸ found
  · exact fun found => ⟨term.id, found⟩

theorem mem_items_iff {content : Content} :
    content ∈ catalog.items.values ↔ catalog.item? content.id = some content := by
  rw [Table.mem_values_iff]
  constructor
  · rintro ⟨key, found⟩
    exact (sound.item_id found).symm ▸ found
  · exact fun found => ⟨content.id, found⟩

theorem items_ascending :
    catalog.items.values.Pairwise fun first second => first.id < second.id := by
  refine List.pairwise_map.mpr (catalog.items.ascending.imp_of_mem ?_)
  intro first second firstIn secondIn below
  rwa [sound.item_id (Table.mem_entries_iff.mp firstIn),
    sound.item_id (Table.mem_entries_iff.mp secondIn)]

end Sound

theorem sound_empty : Sound empty where
  term_id found := by cases found
  item_id found := by cases found
  distinct found := by cases found
  known found := by cases found

theorem bounded_empty : Bounded empty where
  nonneg := Int64.le_refl 0
  term_le found := by cases found
  item_le found := by cases found

/-! ### The two ways in which a catalog grows -/

theorem Sound.insertTerm {catalog : Catalog} (sound : catalog.Sound) (term : Term) (last : Int64) :
    Sound { catalog with terms := catalog.terms.insert term.id term, lastId := last } where
  term_id found := by
    rcases Table.get?_insert_eq_some found with ⟨rfl, rfl⟩ | old
    · rfl
    · exact sound.term_id old
  item_id := sound.item_id
  distinct := sound.distinct
  known found id member := by
    obtain ⟨old, present⟩ := Table.contains_iff.mp (sound.known found id member)
    apply Table.contains_iff.mpr
    rw [Table.get?_insert]
    split
    · exact ⟨term, rfl⟩
    · exact ⟨old, present⟩

theorem Sound.insertItem {catalog : Catalog} (sound : catalog.Sound) (content : Content)
    (last : Int64) (distinct : content.terms.Nodup)
    (known : ∀ id ∈ content.terms, catalog.terms.contains id) :
    Sound { catalog with items := catalog.items.insert content.id content, lastId := last } where
  term_id := sound.term_id
  item_id found := by
    rcases Table.get?_insert_eq_some found with ⟨rfl, rfl⟩ | old
    · rfl
    · exact sound.item_id old
  distinct found := by
    rcases Table.get?_insert_eq_some found with ⟨rfl, rfl⟩ | old
    · exact distinct
    · exact sound.distinct old
  known found := by
    rcases Table.get?_insert_eq_some found with ⟨rfl, rfl⟩ | old
    · exact known
    · exact sound.known old

theorem Bounded.insertTerm {catalog : Catalog} (bounded : catalog.Bounded) (term : Term)
    {last : Int64} (above : catalog.lastId ≤ last) (fits : term.id ≤ last) :
    Bounded { catalog with terms := catalog.terms.insert term.id term, lastId := last } where
  nonneg := Int64.le_trans bounded.nonneg above
  term_le found := by
    rcases Table.get?_insert_eq_some found with ⟨rfl, rfl⟩ | old
    · exact fits
    · exact Int64.le_trans (bounded.term_le old) above
  item_le found := Int64.le_trans (bounded.item_le found) above

theorem Bounded.insertItem {catalog : Catalog} (bounded : catalog.Bounded) {key : Int64}
    (content : Content) {last : Int64} (above : catalog.lastId ≤ last) (fits : key ≤ last) :
    Bounded { catalog with items := catalog.items.insert key content, lastId := last } where
  nonneg := Int64.le_trans bounded.nonneg above
  term_le found := Int64.le_trans (bounded.term_le found) above
  item_le found := by
    rcases Table.get?_insert_eq_some found with ⟨rfl, rfl⟩ | old
    · exact fits
    · exact Int64.le_trans (bounded.item_le old) above

/-! ### Changes -/

theorem Sound.addTerm {catalog : Catalog} (sound : catalog.Sound) (taxonomy : Taxonomy)
    (name : String) : (catalog.addTerm taxonomy name).2.Sound := by
  rcases catalog.addTerm_cases taxonomy name with ⟨term, _, same⟩ | ⟨_, added⟩
  · rw [same]
    exact sound
  · rw [added]
    exact sound.insertTerm ⟨catalog.nextId, taxonomy, name⟩ catalog.nextId

theorem Sound.addItem {catalog : Catalog} (sound : catalog.Sound) (postType title : String) :
    (catalog.addItem postType title).2.Sound :=
  sound.insertItem ⟨catalog.nextId, postType, title, []⟩ catalog.nextId List.nodup_nil
    fun _ member => absurd member List.not_mem_nil

theorem Sound.assign {catalog after : Catalog} (sound : catalog.Sound) {item : Int64}
    {ids : List Int64} (assigned : catalog.assign item ids = .ok after) : after.Sound := by
  obtain ⟨present, content, found, rfl⟩ := assign_eq_ok_iff.mp assigned
  obtain rfl := sound.item_id found
  refine sound.insertItem { content with terms := appendNew content.terms ids } catalog.lastId
    (nodup_appendNew (sound.distinct found) ids) ?_
  intro id member
  rcases mem_appendNew.mp member with old | new
  · exact sound.known found id old
  · exact present id new

theorem Sound.change {catalog : Catalog} (sound : catalog.Sound) (next : Change) :
    (catalog.change next).Sound := by
  cases next with
  | addTerm taxonomy name => exact sound.addTerm taxonomy name
  | addItem postType title => exact sound.addItem postType title
  | assign item ids =>
    rw [change_assign]
    split
    · rename_i after assigned
      exact sound.assign assigned
    · exact sound

theorem Bounded.addTerm {catalog : Catalog} (bounded : catalog.Bounded) (taxonomy : Taxonomy)
    (name : String) (room : catalog.termByName? taxonomy name = none → catalog.HasRoom) :
    (catalog.addTerm taxonomy name).2.Bounded := by
  rcases catalog.addTerm_cases taxonomy name with ⟨term, _, same⟩ | ⟨free, added⟩
  · rw [same]
    exact bounded
  · rw [added]
    exact bounded.insertTerm ⟨catalog.nextId, taxonomy, name⟩
      (Int64.le_of_lt (room free).lastId_lt_nextId) (Int64.le_refl _)

theorem Bounded.addItem {catalog : Catalog} (bounded : catalog.Bounded) (postType title : String)
    (room : catalog.HasRoom) : (catalog.addItem postType title).2.Bounded :=
  bounded.insertItem ⟨catalog.nextId, postType, title, []⟩
    (Int64.le_of_lt room.lastId_lt_nextId) (Int64.le_refl _)

theorem Bounded.assign {catalog after : Catalog} (bounded : catalog.Bounded) {item : Int64}
    {ids : List Int64} (assigned : catalog.assign item ids = .ok after) : after.Bounded := by
  obtain ⟨_, content, found, rfl⟩ := assign_eq_ok_iff.mp assigned
  exact bounded.insertItem _ (Int64.le_refl _) (bounded.item_le found)

theorem Bounded.change {catalog : Catalog} (bounded : catalog.Bounded) {next : Change}
    (room : catalog.HasRoomFor next) : (catalog.change next).Bounded := by
  cases next with
  | addTerm taxonomy name => exact bounded.addTerm taxonomy name room
  | addItem postType title => exact bounded.addItem postType title room
  | assign item ids =>
    rw [change_assign]
    split
    · rename_i after assigned
      exact bounded.assign assigned
    · exact bounded

/-! ### Snapshots -/

theorem le_raised (last id : Int64) :
    last ≤ (if last < id then id else last) ∧ id ≤ (if last < id then id else last) := by
  split
  · rename_i below
    exact ⟨Int64.le_of_lt below, Int64.le_refl id⟩
  · rename_i notBelow
    exact ⟨Int64.le_refl last, Int64.not_lt.mp notBelow⟩

theorem Sound.loadTerm {catalog after : Catalog} (sound : catalog.Sound) {term : Term}
    (loaded : catalog.loadTerm term = .ok after) : after.Sound := by
  obtain ⟨_, rfl⟩ := loadTerm_eq_ok_iff.mp loaded
  exact sound.insertTerm term _

theorem Sound.loadItem {catalog after : Catalog} (sound : catalog.Sound) {content : Content}
    (loaded : catalog.loadItem content = .ok after) : after.Sound := by
  obtain ⟨_, present, rfl⟩ := loadItem_eq_ok_iff.mp loaded
  refine sound.insertItem { content with terms := appendNew [] content.terms } _
    (nodup_appendNew List.nodup_nil _) ?_
  intro id member
  rcases mem_appendNew.mp member with none | listed
  · cases none
  · exact present id listed

theorem Bounded.loadTerm {catalog after : Catalog} (bounded : catalog.Bounded) {term : Term}
    (loaded : catalog.loadTerm term = .ok after) : after.Bounded := by
  obtain ⟨_, rfl⟩ := loadTerm_eq_ok_iff.mp loaded
  obtain ⟨above, fits⟩ := le_raised catalog.lastId term.id
  exact bounded.insertTerm term above fits

theorem Bounded.loadItem {catalog after : Catalog} (bounded : catalog.Bounded) {content : Content}
    (loaded : catalog.loadItem content = .ok after) : after.Bounded := by
  obtain ⟨_, _, rfl⟩ := loadItem_eq_ok_iff.mp loaded
  obtain ⟨above, fits⟩ := le_raised catalog.lastId content.id
  exact bounded.insertItem _ above fits

theorem loadTerms_induction {motive : Catalog → Prop}
    (step : ∀ {catalog after : Catalog} {term : Term}, motive catalog →
      catalog.loadTerm term = .ok after → motive after)
    {catalog after : Catalog} (start : motive catalog) {terms : List Term}
    (loaded : catalog.loadTerms terms = .ok after) : motive after := by
  induction terms generalizing catalog with
  | nil => exact (Except.ok.inj loaded) ▸ start
  | cons term rest ih =>
    obtain ⟨next, first, others⟩ := loadTerms_cons_eq_ok_iff.mp loaded
    exact ih (step start first) others

theorem loadItems_induction {motive : Catalog → Prop}
    (step : ∀ {catalog after : Catalog} {content : Content}, motive catalog →
      catalog.loadItem content = .ok after → motive after)
    {catalog after : Catalog} (start : motive catalog) {items : List Content}
    (loaded : catalog.loadItems items = .ok after) : motive after := by
  induction items generalizing catalog with
  | nil => exact (Except.ok.inj loaded) ▸ start
  | cons content rest ih =>
    obtain ⟨next, first, others⟩ := loadItems_cons_eq_ok_iff.mp loaded
    exact ih (step start first) others

theorem sound_ofSnapshot {snapshot : Snapshot} {catalog : Catalog}
    (loaded : ofSnapshot snapshot = .ok catalog) : catalog.Sound := by
  obtain ⟨terms, first, others⟩ := ofSnapshot_eq_ok_iff.mp loaded
  have filled := loadTerms_induction (fun sound next => sound.loadTerm next) sound_empty first
  exact loadItems_induction (fun sound next => sound.loadItem next) filled others

theorem bounded_ofSnapshot {snapshot : Snapshot} {catalog : Catalog}
    (loaded : ofSnapshot snapshot = .ok catalog) : catalog.Bounded := by
  obtain ⟨terms, first, others⟩ := ofSnapshot_eq_ok_iff.mp loaded
  have filled := loadTerms_induction (fun bounded next => bounded.loadTerm next) bounded_empty first
  exact loadItems_induction (fun bounded next => bounded.loadItem next) filled others

/-! ### Every catalog -/

theorem Reachable.sound {catalog : Catalog} (reachable : catalog.Reachable) : catalog.Sound := by
  induction reachable with
  | empty => exact sound_empty
  | snapshot loaded => exact sound_ofSnapshot loaded
  | change _ next ih => exact ih.change next

theorem ReachableWithRoom.bounded {catalog : Catalog} (reached : catalog.ReachableWithRoom) :
    catalog.Bounded := by
  induction reached with
  | empty => exact bounded_empty
  | snapshot loaded => exact bounded_ofSnapshot loaded
  | change _ room ih => exact ih.change room

end TaxonomyQuery.Catalog
