import TaxonomyQuery.Catalog.History
/-!
What each step on a catalog needs and what it leaves.
-/

set_option autoImplicit false

namespace TaxonomyQuery.Catalog

theorem HasRoom.toInt_nextId {catalog : Catalog} (room : catalog.HasRoom) :
    catalog.nextId.toInt = catalog.lastId.toInt + 1 := by
  have small := Int64.lt_iff_toInt_lt.mp room
  have large := catalog.lastId.le_toInt
  rw [Int64.toInt_maxValue] at small
  rw [nextId, Int64.toInt_add, Int64.toInt_one,
    Int.bmod_eq_of_le_mul_two (by omega) (by omega)]

theorem HasRoom.lastId_lt_nextId {catalog : Catalog} (room : catalog.HasRoom) :
    catalog.lastId < catalog.nextId := by
  rw [Int64.lt_iff_toInt_lt, room.toInt_nextId]
  omega

/-- Either the name is taken and nothing is added, or a term is added under the next id. -/
theorem addTerm_cases (catalog : Catalog) (taxonomy : Taxonomy) (name : String) :
    (∃ term, catalog.termByName? taxonomy name = some term ∧
      catalog.addTerm taxonomy name = (term.id, catalog)) ∨
    (catalog.termByName? taxonomy name = none ∧
      catalog.addTerm taxonomy name = (catalog.nextId,
        { catalog with
          terms := catalog.terms.insert catalog.nextId ⟨catalog.nextId, taxonomy, name⟩
          lastId := catalog.nextId })) := by
  unfold addTerm
  split
  · rename_i term taken
    exact .inl ⟨term, taken, rfl⟩
  · rename_i free
    exact .inr ⟨free, rfl⟩

theorem attach_eq {catalog : Catalog} {item : Int64} {content : Content}
    (found : catalog.item? item = some content) (id : Int64) :
    catalog.attach item id =
      { catalog with
        items := catalog.items.insert item
          { content with terms := appendNew content.terms [id] } } := by
  rw [attach, found]
  by_cases has : content.terms.contains id
  · simp only [appendNew, has, if_true]
    rw [Table.insert_of_get? found]
  · simp only [appendNew, has, if_false, Bool.false_eq_true]

/-- Terms that are attached one by one are those of the whole list that are new. -/
theorem foldl_attach {catalog : Catalog} {item : Int64} {content : Content}
    (found : catalog.item? item = some content) (ids : List Int64) :
    ids.foldl (attach item) catalog =
      { catalog with
        items := catalog.items.insert item { content with terms := appendNew content.terms ids } } := by
  induction ids generalizing catalog content with
  | nil => rw [appendNew_nil, Table.insert_of_get? found, List.foldl_nil]
  | cons id rest ih =>
    have changed : (catalog.attach item id).item? item =
        some { content with terms := appendNew content.terms [id] } := by
      rw [attach_eq found]
      exact Table.get?_insert_self _ _ _
    rw [List.foldl_cons, ih changed, attach_eq found]
    simp only [Table.insert_insert, ← appendNew_append, List.singleton_append]

theorem tryAssign_cases (catalog : Catalog) (item : Int64) (ids : List Int64) :
    (∃ error, catalog.tryAssign item ids = (.error error, catalog)) ∨
      ∃ content, catalog.item? item = some content ∧
        catalog.tryAssign item ids = (.ok (),
          { catalog with
            items := catalog.items.insert item
              { content with terms := appendNew content.terms ids } }) := by
  unfold tryAssign
  split
  · exact .inl ⟨_, rfl⟩
  · split
    · exact .inl ⟨_, rfl⟩
    · rename_i content found
      exact .inr ⟨content, found, by rw [foldl_attach found]⟩

/-- A catalog is as it was after an assignment that is refused. -/
theorem change_assign (catalog : Catalog) (item : Int64) (ids : List Int64) :
    catalog.change (.assign item ids) =
      match catalog.assign item ids with
      | .ok after => after
      | .error _ => catalog := by
  rw [change, assign]
  rcases catalog.tryAssign_cases item ids with ⟨error, refused⟩ | ⟨content, _, assigned⟩
  · rw [refused]
    rfl
  · rw [assigned]
    rfl

theorem assign_eq_ok_iff {catalog after : Catalog} {item : Int64} {ids : List Int64} :
    catalog.assign item ids = .ok after ↔
      (∀ id ∈ ids, catalog.terms.contains id) ∧
        ∃ content, catalog.item? item = some content ∧
          after = { catalog with
            items := catalog.items.insert item
              { content with terms := appendNew content.terms ids } } := by
  rw [← firstUnknown?_eq_none_iff, assign, tryAssign]
  cases catalog.firstUnknown? ids with
  | some id => simp [Except.map]
  | none =>
    cases found : catalog.item? item with
    | none => simp [Except.map]
    | some content =>
      simp only [foldl_attach found, Except.map, Except.ok.injEq, Option.some.injEq,
        exists_eq_left', true_and]
      exact eq_comm

theorem firstUnknown?_eq_some_iff {catalog : Catalog} {ids : List Int64} {id : Int64} :
    catalog.firstUnknown? ids = some id ↔
      ∃ before after, ids = before ++ id :: after ∧
        (∀ known ∈ before, (catalog.term? known).isSome) ∧ catalog.term? id = none := by
  simp only [firstUnknown?, List.find?_eq_some_iff_append, Table.contains, term?, Bool.not_not,
    Bool.not_eq_eq_eq_not, Bool.not_true, Option.isSome_eq_false_iff, Option.isNone_iff_eq_none]
  constructor
  · rintro ⟨absent, before, after, split, known⟩
    exact ⟨before, after, split, known, absent⟩
  · rintro ⟨before, after, split, known, absent⟩
    exact ⟨absent, before, after, split, known⟩

theorem assign_eq_error_iff {catalog : Catalog} {item : Int64} {ids : List Int64}
    {error : CatalogError} :
    catalog.assign item ids = .error error ↔
      (∃ id, catalog.firstUnknown? ids = some id ∧ error = .unknownTerm id) ∨
        (∀ id ∈ ids, catalog.terms.contains id) ∧ catalog.item? item = none ∧
          error = .unknownItem item := by
  rw [← firstUnknown?_eq_none_iff, assign, tryAssign]
  cases catalog.firstUnknown? ids with
  | some id => simp [Except.map, eq_comm]
  | none => cases catalog.item? item <;> simp [Except.map, eq_comm]

theorem loadTerm_eq_ok_iff {catalog after : Catalog} {term : Term} :
    catalog.loadTerm term = .ok after ↔
      catalog.terms.contains term.id = false ∧
        after = { catalog with
          terms := catalog.terms.insert term.id term
          lastId := if catalog.lastId < term.id then term.id else catalog.lastId } := by
  rw [loadTerm]
  cases catalog.terms.contains term.id with
  | true => simp
  | false =>
    simp only [Bool.false_eq_true, if_false, Except.ok.injEq, true_and]
    exact eq_comm

theorem loadTerm_eq_error_iff {catalog : Catalog} {term : Term} {error : CatalogError} :
    catalog.loadTerm term = .error error ↔
      catalog.terms.contains term.id ∧ error = .duplicateTerm term.id := by
  rw [loadTerm]
  cases catalog.terms.contains term.id with
  | true => simp [eq_comm]
  | false => simp

theorem loadItem_eq_ok_iff {catalog after : Catalog} {content : Content} :
    catalog.loadItem content = .ok after ↔
      catalog.items.contains content.id = false ∧
        (∀ id ∈ content.terms, catalog.terms.contains id) ∧
        after = { catalog with
          items := catalog.items.insert content.id
            { content with terms := appendNew [] content.terms }
          lastId := if catalog.lastId < content.id then content.id else catalog.lastId } := by
  rw [← firstUnknown?_eq_none_iff, loadItem]
  cases catalog.items.contains content.id with
  | true => simp
  | false =>
    cases catalog.firstUnknown? content.terms with
    | some id => simp
    | none =>
      simp only [Bool.false_eq_true, if_false, Except.ok.injEq, true_and]
      exact eq_comm

theorem loadItem_eq_error_iff {catalog : Catalog} {content : Content} {error : CatalogError} :
    catalog.loadItem content = .error error ↔
      catalog.items.contains content.id ∧ error = .duplicateItem content.id ∨
        catalog.items.contains content.id = false ∧
          ∃ id, catalog.firstUnknown? content.terms = some id ∧
            error = .unknownReference content.id id := by
  rw [loadItem]
  cases catalog.items.contains content.id with
  | true => simp [eq_comm]
  | false => cases catalog.firstUnknown? content.terms <;> simp [eq_comm]

theorem loadTerms_cons_eq_ok_iff {catalog after : Catalog} {term : Term} {rest : List Term} :
    catalog.loadTerms (term :: rest) = .ok after ↔
      ∃ next, catalog.loadTerm term = .ok next ∧ next.loadTerms rest = .ok after := by
  rw [loadTerms]
  cases catalog.loadTerm term <;> simp [bind, Except.bind]

theorem loadItems_cons_eq_ok_iff {catalog after : Catalog} {content : Content}
    {rest : List Content} :
    catalog.loadItems (content :: rest) = .ok after ↔
      ∃ next, catalog.loadItem content = .ok next ∧ next.loadItems rest = .ok after := by
  rw [loadItems]
  cases catalog.loadItem content <;> simp [bind, Except.bind]

theorem ofSnapshot_eq_ok_iff {snapshot : Snapshot} {after : Catalog} :
    ofSnapshot snapshot = .ok after ↔
      ∃ terms, empty.loadTerms snapshot.terms = .ok terms ∧
        terms.loadItems snapshot.items = .ok after := by
  rw [ofSnapshot]
  cases empty.loadTerms snapshot.terms <;> simp [bind, Except.bind]

theorem ofSnapshot_eq_error_iff_passes {snapshot : Snapshot} {error : CatalogError} :
    ofSnapshot snapshot = .error error ↔
      empty.loadTerms snapshot.terms = .error error ∨
        ∃ terms, empty.loadTerms snapshot.terms = .ok terms ∧
          terms.loadItems snapshot.items = .error error := by
  rw [ofSnapshot]
  cases empty.loadTerms snapshot.terms <;> simp [bind, Except.bind]

end TaxonomyQuery.Catalog
