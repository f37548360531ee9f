import TaxonomyQuery.Proofs.CatalogInvariant
/-!
How a catalog grows. A change takes one new id or none. Ids that are taken ascend, above all that
were there before, so nothing is ever replaced: terms stay as they are, and items are only given
more terms.
-/

set_option autoImplicit false

namespace TaxonomyQuery

/-- The same item later on: it may have been given more terms. -/
structure Content.Continues (before after : Content) : Prop where
  id : after.id = before.id
  postType : after.postType = before.postType
  title : after.title = before.title
  terms : before.terms <+: after.terms

theorem Content.Continues.refl (content : Content) : content.Continues content :=
  ⟨rfl, rfl, rfl, List.prefix_refl _⟩

theorem Content.Continues.trans {first second third : Content} (early : first.Continues second)
    (late : second.Continues third) : first.Continues third where
  id := late.id.trans early.id
  postType := late.postType.trans early.postType
  title := late.title.trans early.title
  terms := early.terms.trans late.terms

namespace Catalog

theorem prefix_appendNew (old new : List Int64) : old <+: appendNew old new := by
  induction new generalizing old with
  | nil => exact List.prefix_refl old
  | cons id rest ih =>
    rw [appendNew]
    split
    · exact ih old
    · exact (List.prefix_append old [id]).trans (ih _)

/-- Nothing is lost: terms are what they were, and items are the same items. -/
structure Continues (before after : Catalog) : Prop where
  term : ∀ {id : Int64} {term : Term}, before.term? id = some term → after.term? id = some term
  item : ∀ {id : Int64} {content : Content}, before.item? id = some content →
    ∃ later, after.item? id = some later ∧ content.Continues later

theorem Continues.refl (catalog : Catalog) : catalog.Continues catalog where
  term found := found
  item found := ⟨_, found, .refl _⟩

theorem Continues.trans {first second third : Catalog} (early : first.Continues second)
    (late : second.Continues third) : first.Continues third where
  term found := late.term (early.term found)
  item found := by
    obtain ⟨middle, present, same⟩ := early.item found
    obtain ⟨last, there, still⟩ := late.item present
    exact ⟨last, there, same.trans still⟩

/-! ### Ids -/

/-- The ids of all terms and all items. -/
def ids (catalog : Catalog) : List Int64 :=
  catalog.terms.values.map (·.id) ++ catalog.items.values.map (·.id)

/-- The id that a change takes for what it adds. A term whose name is there already takes none. -/
def taken? (catalog : Catalog) : Change → Option Int64
  | .addTerm taxonomy name =>
    match catalog.termByName? taxonomy name with
    | some _ => none
    | none => some (catalog.addTerm taxonomy name).1
  | .addItem postType title => some (catalog.addItem postType title).1
  | .assign _ _ => none

/-- The ids that the changes of a run take one after another. -/
def takenBy : Catalog → List Change → List Int64
  | _, [] => []
  | catalog, next :: rest => (catalog.taken? next).toList ++ (catalog.change next).takenBy rest

theorem Sound.ids_eq {catalog : Catalog} (sound : catalog.Sound) :
    catalog.ids = catalog.terms.keys ++ catalog.items.keys := by
  have terms : catalog.terms.values.map (·.id) = catalog.terms.keys := by
    rw [Table.values, List.map_map]
    exact List.map_congr_left fun entry member => sound.term_id (Table.mem_entries_iff.mp member)
  have items : catalog.items.values.map (·.id) = catalog.items.keys := by
    rw [Table.values, List.map_map]
    exact List.map_congr_left fun entry member => sound.item_id (Table.mem_entries_iff.mp member)
  rw [ids, terms, items]

namespace Bounded

variable {catalog : Catalog} (bounded : catalog.Bounded)

include bounded

theorem le_of_mem_keys {id : Int64} (member : id ∈ catalog.terms.keys ++ catalog.items.keys) :
    id ≤ catalog.lastId := by
  rcases List.mem_append.mp member with term | item
  · obtain ⟨_, found⟩ := Table.mem_keys_iff.mp term
    exact bounded.term_le found
  · obtain ⟨_, found⟩ := Table.mem_keys_iff.mp item
    exact bounded.item_le found

theorem nextId_not_mem_keys (room : catalog.HasRoom) :
    catalog.nextId ∉ catalog.terms.keys ∧ catalog.nextId ∉ catalog.items.keys :=
  not_or.mp fun member =>
    Int64.not_lt.mpr (bounded.le_of_mem_keys (List.mem_append.mpr member)) room.lastId_lt_nextId

end Bounded

/-! ### One change -/

/-- All that a change can do: nothing, add a term or an item under the next id, or give an item that
is there more terms. -/
theorem change_cases (catalog : Catalog) (next : Change) :
    (catalog.taken? next = none ∧ catalog.change next = catalog) ∨
    (∃ term, catalog.taken? next = some catalog.nextId ∧
      catalog.change next =
        { catalog with
          terms := catalog.terms.insert catalog.nextId term
          lastId := catalog.nextId }) ∨
    (∃ content, catalog.taken? next = some catalog.nextId ∧
      catalog.change next =
        { catalog with
          items := catalog.items.insert catalog.nextId content
          lastId := catalog.nextId }) ∨
    (∃ item content new, catalog.taken? next = none ∧ catalog.item? item = some content ∧
      catalog.change next =
        { catalog with
          items := catalog.items.insert item
            { content with terms := appendNew content.terms new } }) := by
  cases next with
  | addTerm taxonomy name =>
    rw [taken?, change]
    rcases catalog.addTerm_cases taxonomy name with ⟨term, known, same⟩ | ⟨free, added⟩
    · exact .inl ⟨by rw [known], by rw [same]⟩
    · exact .inr (.inl ⟨_, by rw [free, added], by rw [added]⟩)
  | addItem postType title => exact .inr (.inr (.inl ⟨_, rfl, rfl⟩))
  | assign item new =>
    rw [change_assign]
    split
    · rename_i after assigned
      obtain ⟨_, content, found, rfl⟩ := assign_eq_ok_iff.mp assigned
      exact .inr (.inr (.inr ⟨item, content, new, rfl, found, rfl⟩))
    · exact .inl ⟨rfl, rfl⟩

theorem eq_nextId_of_taken? {catalog : Catalog} {next : Change} {id : Int64}
    (taken : catalog.taken? next = some id) : id = catalog.nextId := by
  rcases catalog.change_cases next with ⟨none, _⟩ | ⟨_, some, _⟩ | ⟨_, some, _⟩ | ⟨_, _, _, none, _⟩
  · cases none.symm.trans taken
  · exact Option.some.inj (taken.symm.trans some)
  · exact Option.some.inj (taken.symm.trans some)
  · cases none.symm.trans taken

theorem HasRoomFor.hasRoom {catalog : Catalog} {next : Change} (room : catalog.HasRoomFor next)
    {id : Int64} (taken : catalog.taken? next = some id) :
    catalog.HasRoom ∧ id = catalog.nextId := by
  refine ⟨?_, eq_nextId_of_taken? taken⟩
  cases next with
  | addTerm taxonomy name =>
    rw [taken?] at taken
    split at taken
    · cases taken
    · rename_i free
      exact room free
  | addItem postType title => exact room
  | assign item new => cases taken

section Step

variable {catalog : Catalog} (reached : catalog.ReachableWithRoom) {next : Change}
  (room : catalog.HasRoomFor next)

include reached room

theorem lt_of_taken? {id : Int64} (taken : catalog.taken? next = some id) :
    ∀ other ∈ catalog.ids, other < id := by
  obtain ⟨room, rfl⟩ := room.hasRoom taken
  intro other member
  rw [reached.reachable.sound.ids_eq] at member
  have below := reached.bounded.le_of_mem_keys member
  exact Std.lt_of_le_of_lt below room.lastId_lt_nextId

theorem ids_change_perm :
    (catalog.change next).ids.Perm (catalog.ids ++ (catalog.taken? next).toList) := by
  rw [reached.reachable.sound.ids_eq, (reached.change room).reachable.sound.ids_eq]
  -- Only what is put in under the next id adds a key. An item that is given terms keeps its own.
  rcases catalog.change_cases next with ⟨taken, same⟩ | ⟨term, taken, added⟩ |
    ⟨content, taken, added⟩ | ⟨item, content, new, taken, found, assigned⟩
  · rw [taken, same, Option.toList_none, List.append_nil]
  · have absent := reached.bounded.nextId_not_mem_keys (room.hasRoom taken).1
    have grown := Table.keys_insert_perm absent.1 term
    rw [taken, added]
    calc ((catalog.terms.insert catalog.nextId term).keys ++ catalog.items.keys).Perm
          (catalog.nextId :: (catalog.terms.keys ++ catalog.items.keys)) := grown.append_right _
      List.Perm _ (catalog.terms.keys ++ catalog.items.keys ++ [catalog.nextId]) :=
        (List.perm_append_singleton _ _).symm
  · have absent := reached.bounded.nextId_not_mem_keys (room.hasRoom taken).1
    have grown := Table.keys_insert_perm absent.2 content
    rw [taken, added]
    calc (catalog.terms.keys ++ (catalog.items.insert catalog.nextId content).keys).Perm
          (catalog.terms.keys ++ catalog.nextId :: catalog.items.keys) := grown.append_left _
      List.Perm _ (catalog.nextId :: (catalog.terms.keys ++ catalog.items.keys)) :=
        List.perm_middle
      List.Perm _ (catalog.terms.keys ++ catalog.items.keys ++ [catalog.nextId]) :=
        (List.perm_append_singleton _ _).symm
  · have present : item ∈ catalog.items.keys := Table.mem_keys_iff.mpr ⟨content, found⟩
    rw [taken, assigned, Option.toList_none, List.append_nil,
      Table.keys_insert_of_mem present]

theorem continues_change : catalog.Continues (catalog.change next) := by
  rcases catalog.change_cases next with ⟨_, same⟩ | ⟨term, taken, added⟩ |
    ⟨content, taken, added⟩ | ⟨item, content, new, _, found, assigned⟩
  · rw [same]
    exact .refl catalog
  · have absent := reached.bounded.nextId_not_mem_keys (room.hasRoom taken).1
    rw [added]
    exact ⟨fun found => Table.get?_insert_of_not_mem absent.1 term found,
      fun found => ⟨_, found, .refl _⟩⟩
  · have absent := reached.bounded.nextId_not_mem_keys (room.hasRoom taken).1
    rw [added]
    exact ⟨fun found => found,
      fun found => ⟨_, Table.get?_insert_of_not_mem absent.2 content found, .refl _⟩⟩
  · rw [assigned]
    refine ⟨fun found => found, fun {id old} present => ?_⟩
    by_cases same : id = item
    · subst same
      obtain rfl : content = old := Option.some.inj (found.symm.trans present)
      exact ⟨_, Table.get?_insert_self _ _ _, rfl, rfl, rfl, prefix_appendNew _ _⟩
    · exact ⟨old, (Table.get?_insert_of_ne _ same _).trans present, .refl old⟩

end Step

/-! ### Runs -/

section Run

variable {catalog : Catalog} (reached : catalog.ReachableWithRoom) {list : List Change}
  (room : catalog.HasRoomForAll list)

include reached room

/-- After a run there are the things that were there before and those that took an id. -/
theorem ids_changes_perm :
    (catalog.changes list).ids.Perm (catalog.ids ++ catalog.takenBy list) := by
  induction list generalizing catalog with
  | nil => rw [changes_nil, takenBy, List.append_nil]
  | cons next rest ih =>
    have first := ids_change_perm reached room.1
    rw [changes_cons, takenBy, ← List.append_assoc]
    exact (ih (reached.change room.1) room.2).trans (first.append_right _)

theorem takenBy_ascending :
    (∀ id ∈ catalog.takenBy list, ∀ other ∈ catalog.ids, other < id) ∧
      (catalog.takenBy list).Pairwise (· < ·) := by
  induction list generalizing catalog with
  | nil => exact ⟨fun _ member => absurd member List.not_mem_nil, .nil⟩
  | cons next rest ih =>
    -- What is taken later is above all that is there after the first change: what was there before
    -- and what the first change took.
    obtain ⟨above, ascending⟩ := ih (reached.change room.1) room.2
    have there (id : Int64) : id ∈ (catalog.change next).ids ↔
        id ∈ catalog.ids ∨ id ∈ (catalog.taken? next).toList :=
      (ids_change_perm reached room.1).mem_iff.trans List.mem_append
    rw [takenBy]
    constructor
    · intro id member other present
      rcases List.mem_append.mp member with now | later
      · exact lt_of_taken? reached room.1 (Option.mem_toList.mp now) other present
      · exact above id later other ((there other).mpr (.inl present))
    · refine List.pairwise_append.mpr ⟨?_, ascending, ?_⟩
      · cases catalog.taken? next <;> simp
      · intro id now other later
        exact above other later id ((there id).mpr (.inr now))

theorem count_ids_of_mem_takenBy {id : Int64} (taken : id ∈ catalog.takenBy list) :
    (catalog.changes list).ids.count id = 1 := by
  obtain ⟨above, ascending⟩ := takenBy_ascending reached room
  have new : id ∉ catalog.ids := fun old => Int64.lt_irrefl (above id taken id old)
  have distinct : (catalog.takenBy list).Nodup := ascending.imp Std.ne_of_lt
  rw [(ids_changes_perm reached room).count_eq, List.count_append,
    List.count_eq_zero_of_not_mem new, distinct.count, if_pos taken]

theorem continues_changes : catalog.Continues (catalog.changes list) := by
  induction list generalizing catalog with
  | nil => exact .refl catalog
  | cons next rest ih =>
    exact (continues_change reached room.1).trans (ih (reached.change room.1) room.2)

end Run

/-- Along a run from any catalog, every id that is taken exceeds all ids there are at that moment.
So the ids taken ascend, and in the end each of them is the id of one thing only, be it a term or an
item. What was there before is there still. -/
theorem changes_take_fresh_ids {catalog : Catalog} (reached : catalog.ReachableWithRoom)
    {list : List Change} (room : catalog.HasRoomForAll list) :
    (∀ before next after, list = before ++ next :: after →
      ∀ id, (catalog.changes before).taken? next = some id →
        ∀ other ∈ (catalog.changes before).ids, other < id) ∧
    (catalog.takenBy list).Pairwise (· < ·) ∧
    (∀ id ∈ catalog.takenBy list, (catalog.changes list).ids.count id = 1) ∧
    catalog.Continues (catalog.changes list) := by
  refine ⟨?_, (takenBy_ascending reached room).2, fun _ => count_ids_of_mem_takenBy reached room,
    continues_changes reached room⟩
  rintro before next after rfl id taken
  obtain ⟨roomBefore, roomNow, _⟩ := hasRoomForAll_append.mp room
  exact lt_of_taken? (reached.changes roomBefore) roomNow taken

theorem changes_take_fresh_ids_after_snapshot :
    let snapshot : Snapshot :=
      { terms := [⟨7, .tag, "big"⟩, ⟨-3, .category, "animal"⟩]
        items := [⟨9, "post", "cat", [7]⟩, ⟨7, "post", "fern", []⟩] }
    let list : List Change := [.addTerm .tag "green", .addTerm .tag "big", .assign 7 [10],
      .addItem "page" "moss", .assign 12 [10], .assign 9 [-3, 10, -3]]
    ∃ catalog, ofSnapshot snapshot = .ok catalog ∧ catalog.ReachableWithRoom ∧
      catalog.HasRoomForAll list ∧ catalog.takenBy list = [10, 11] ∧
      (∀ before next after, list = before ++ next :: after →
        ∀ id, (catalog.changes before).taken? next = some id →
          ∀ other ∈ (catalog.changes before).ids, other < id) ∧
      (catalog.takenBy list).Pairwise (· < ·) ∧
      (∀ id ∈ catalog.takenBy list, (catalog.changes list).ids.count id = 1) ∧
      catalog.Continues (catalog.changes list) := by
  intro snapshot list
  refine ⟨_, rfl, ?_⟩
  have loaded : ofSnapshot snapshot = .ok _ := rfl
  have reached := ReachableWithRoom.snapshot loaded
  exact ⟨reached, by decide, rfl, changes_take_fresh_ids reached (by decide)⟩

end Catalog

end TaxonomyQuery
