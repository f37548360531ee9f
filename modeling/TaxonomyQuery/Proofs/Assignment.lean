import TaxonomyQuery.Proofs.CatalogSteps
/-!
Assigning terms to an item. Nothing is done unless the terms and the item are all there. Then the
item has what it had and behind it what is new, so an assignment does nothing the second time, and
two lists that are assigned one after the other come to the same as both in one.
-/

set_option autoImplicit false

namespace TaxonomyQuery.Catalog

theorem appendNew_of_subset {old new : List Int64} (within : ∀ id ∈ new, id ∈ old) :
    appendNew old new = old := by
  induction new with
  | nil => rfl
  | cons id rest ih =>
    obtain ⟨member, others⟩ := List.forall_mem_cons.mp within
    rw [appendNew, if_pos (List.contains_iff_mem.mpr member)]
    exact ih others

variable {catalog after : Catalog} {item : Int64} {ids more : List Int64}

theorem exists_assign_eq_error_iff :
    (∃ error, catalog.assign item ids = .error error) ↔
      (∃ id ∈ ids, catalog.term? id = none) ∨ catalog.item? item = none := by
  have absent : (∃ id ∈ ids, catalog.term? id = none) ↔
      ∃ id, catalog.firstUnknown? ids = some id := by
    rw [← Option.ne_none_iff_exists', ne_eq, firstUnknown?_eq_none_iff]
    simp [Table.contains, term?]
  simp only [assign_eq_error_iff, exists_or, exists_and_left, exists_eq, and_true, absent,
    ← firstUnknown?_eq_none_iff]
  cases catalog.firstUnknown? ids <;> simp

/-- What was not touched is told apart by the records alone, not by how they are kept. -/
theorem assign_eq_ok_iff_records :
    catalog.assign item ids = .ok after ↔
      (∀ id ∈ ids, (catalog.term? id).isSome) ∧
        ∃ content, catalog.item? item = some content ∧
          after.item? item = some
            { content with terms := content.terms ++ (ids.removeAll content.terms).eraseDups } ∧
          (∀ other, other ≠ item → after.item? other = catalog.item? other) ∧
          after.terms = catalog.terms ∧ after.lastId = catalog.lastId := by
  rw [assign_eq_ok_iff]
  refine and_congr_right fun _ => exists_congr fun content => and_congr_right fun found => ?_
  rw [← appendNew_eq]
  constructor
  · rintro rfl
    exact ⟨Table.get?_insert_self _ _ _,
      fun other different => Table.get?_insert_of_ne _ different _, rfl, rfl⟩
  · rintro ⟨changed, others, terms, last⟩
    obtain ⟨terms, items, lastId⟩ := after
    obtain rfl := terms
    obtain rfl := last
    congr 1
    apply Table.ext_get?
    intro key
    rw [Table.get?_insert]
    split
    · rename_i same
      exact same ▸ changed
    · rename_i different
      exact others key different

theorem assign_again (assigned : catalog.assign item ids = .ok after) :
    after.assign item ids = .ok after := by
  obtain ⟨known, content, found, rfl⟩ := assign_eq_ok_iff.mp assigned
  refine assign_eq_ok_iff.mpr ⟨known, _, Table.get?_insert_self _ _ _, ?_⟩
  have all : ∀ id ∈ ids, id ∈ appendNew content.terms ids :=
    fun id member => mem_appendNew.mpr (.inr member)
  rw [appendNew_of_subset all, Table.insert_insert]

theorem assign_append_eq_ok_iff :
    catalog.assign item (ids ++ more) = .ok after ↔
      ∃ between, catalog.assign item ids = .ok between ∧ between.assign item more = .ok after := by
  simp only [assign_eq_ok_iff, List.forall_mem_append, appendNew_append]
  constructor
  · rintro ⟨⟨first, second⟩, content, found, rfl⟩
    refine ⟨_, ⟨first, content, found, rfl⟩, second, _, Table.get?_insert_self _ _ _, ?_⟩
    rw [Table.insert_insert]
  · rintro ⟨_, ⟨first, content, found, rfl⟩, second, changed, present, rfl⟩
    obtain rfl := Option.some.inj ((Table.get?_insert_self _ _ _).symm.trans present)
    refine ⟨⟨first, second⟩, content, found, ?_⟩
    rw [Table.insert_insert]

/-- Terms are assigned to an item all or none. They are refused for the first of them that is not
there, be the item there or not, and otherwise if there is no item; then nothing changes. If they
are assigned, the item has its old ones followed by the new ones, each once and in the order they
are first listed in, and all else stays. The same assignment changes nothing any more, and whatever
can be assigned in two steps can be assigned in one, with the same outcome. -/
theorem assign_appends_new_or_refuses (catalog : Catalog) (item : Int64) (ids : List Int64) :
    ((∃ error, catalog.assign item ids = .error error) ↔
      (∃ id ∈ ids, catalog.term? id = none) ∨ catalog.item? item = none) ∧
    (∀ error, catalog.assign item ids = .error error →
      catalog.change (.assign item ids) = catalog ∧
        ((∃ before id after, ids = before ++ id :: after ∧
            (∀ known ∈ before, (catalog.term? known).isSome) ∧ catalog.term? id = none ∧
            error = .unknownTerm id) ∨
          (∀ id ∈ ids, (catalog.term? id).isSome) ∧ catalog.item? item = none ∧
            error = .unknownItem item)) ∧
    (∀ after, catalog.assign item ids = .ok after ↔
      (∀ id ∈ ids, (catalog.term? id).isSome) ∧
        ∃ content, catalog.item? item = some content ∧
          after.item? item = some
            { content with terms := content.terms ++ (ids.removeAll content.terms).eraseDups } ∧
          (∀ other, other ≠ item → after.item? other = catalog.item? other) ∧
          after.terms = catalog.terms ∧ after.lastId = catalog.lastId) ∧
    (∀ after, catalog.assign item ids = .ok after →
      catalog.change (.assign item ids) = after ∧ after.assign item ids = .ok after) ∧
    ∀ more after, catalog.assign item (ids ++ more) = .ok after ↔
      ∃ between, catalog.assign item ids = .ok between ∧ between.assign item more = .ok after := by
  refine ⟨exists_assign_eq_error_iff, ?refused, fun after => assign_eq_ok_iff_records, ?again,
    fun more after => assign_append_eq_ok_iff⟩
  case refused =>
    intro error refused
    refine ⟨by rw [change_assign, refused], ?_⟩
    rcases assign_eq_error_iff.mp refused with ⟨id, unknown, same⟩ | ⟨known, missing, same⟩
    · obtain ⟨before, after, split, known, absent⟩ := firstUnknown?_eq_some_iff.mp unknown
      exact .inl ⟨before, id, after, split, known, absent, same⟩
    · exact .inr ⟨known, missing, same⟩
  case again =>
    intro after assigned
    exact ⟨by rw [change_assign, assigned], assign_again assigned⟩

/-- Ids that are assigned already, ids listed twice, and an unknown term for an unknown item. -/
theorem assign_appends_new_or_refuses_of_repeated_ids :
    let catalog := empty.changes [.addTerm .tag "big", .addTerm .category "animal",
      .addTerm .tag "green", .addItem "post" "cat", .assign 4 [2]]
    let after := catalog.change (.assign 4 [3, 2, 3])
    let last := after.change (.assign 4 [2, 1, 3])
    catalog.assign 4 [3, 2, 3] = .ok after ∧
      after.item? 4 = some ⟨4, "post", "cat", [2, 3]⟩ ∧ after.assign 4 [3, 2, 3] = .ok after ∧
      after.assign 4 [2, 1, 3] = .ok last ∧
      last.item? 4 = some ⟨4, "post", "cat", [2, 3, 1]⟩ ∧
      catalog.assign 4 ([3, 2, 3] ++ [2, 1, 3]) = .ok last ∧
      catalog.assign 9 [1, 7, 8] = .error (.unknownTerm 7) ∧
      catalog.change (.assign 9 [1, 7, 8]) = catalog := by
  intro catalog after last
  have assigned : catalog.assign 4 [3, 2, 3] = .ok after := rfl
  have continued : after.assign 4 [2, 1, 3] = .ok last := rfl
  have refused : catalog.assign 9 [1, 7, 8] = .error (.unknownTerm 7) := rfl
  obtain ⟨_, _, _, again, composed⟩ := assign_appends_new_or_refuses catalog 4 [3, 2, 3]
  obtain ⟨_, failed, _⟩ := assign_appends_new_or_refuses catalog 9 [1, 7, 8]
  exact ⟨assigned, rfl, (again after assigned).2, continued, rfl,
    (composed [2, 1, 3] last).mpr ⟨after, assigned, continued⟩, refused, (failed _ refused).1⟩

end TaxonomyQuery.Catalog
