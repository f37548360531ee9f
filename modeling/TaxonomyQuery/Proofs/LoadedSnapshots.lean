import TaxonomyQuery.Proofs.FailingPass
import TaxonomyQuery.Proofs.Growth
/-!
Catalogs from snapshots. One pass over the terms and one over the items come to a catalog exactly if
the snapshot is consistent, and to its first fault otherwise. A catalog holds what the snapshot
lists, so the order in which that is listed makes no difference.
-/

set_option autoImplicit false

namespace TaxonomyQuery

/-! ### What a snapshot lists -/

/-- The item with each of its terms once, in the place where it is listed first. -/
def Content.collapsed (content : Content) : Content :=
  { content with terms := content.terms.eraseDups }

namespace Snapshot

/-- The ids of all terms and all items. -/
def ids (snapshot : Snapshot) : List Int64 :=
  snapshot.terms.map (·.id) ++ snapshot.items.map (·.id)

/-- The first thing in a snapshot that does not fit. Terms come before items. Of an item its id
comes before its terms, which are looked for among all terms of the snapshot. -/
inductive FirstFault (snapshot : Snapshot) : CatalogError → Prop where
  | term {before after : List Term} {term : Term}
      (split : snapshot.terms = before ++ term :: after)
      (distinct : (before.map (·.id)).Nodup)
      (repeated : term.id ∈ before.map (·.id)) : FirstFault snapshot (.duplicateTerm term.id)
  | item {before after : List Content} {item : Content}
      (split : snapshot.items = before ++ item :: after)
      (consistent : Consistent { snapshot with items := before })
      (repeated : item.id ∈ before.map (·.id)) : FirstFault snapshot (.duplicateItem item.id)
  | reference {before after : List Content} {item : Content} {known rest : List Int64}
      {missing : Int64} (split : snapshot.items = before ++ item :: after)
      (consistent : Consistent { snapshot with items := before })
      (fresh : item.id ∉ before.map (·.id))
      (listed : item.terms = known ++ missing :: rest)
      (present : ∀ id ∈ known, id ∈ snapshot.terms.map (·.id))
      (absent : missing ∉ snapshot.terms.map (·.id)) :
      FirstFault snapshot (.unknownReference item.id missing)

theorem Consistent.of_append {terms : List Term} {items rest : List Content}
    (consistent : Consistent ⟨terms, items ++ rest⟩) : Consistent ⟨terms, items⟩ := by
  obtain ⟨termsDistinct, itemsDistinct, known⟩ := consistent
  refine ⟨termsDistinct, ?_, fun item member => known item (List.mem_append_left _ member)⟩
  rw [List.map_append] at itemsDistinct
  exact (List.nodup_append.mp itemsDistinct).1

theorem consistent_append_singleton {terms : List Term} {items : List Content} {item : Content} :
    Consistent ⟨terms, items ++ [item]⟩ ↔
      Consistent ⟨terms, items⟩ ∧ item.id ∉ items.map (·.id) ∧
        ∀ id ∈ item.terms, id ∈ terms.map (·.id) := by
  simp only [Consistent, ((List.perm_append_singleton item items).map (·.id)).nodup_iff,
    List.map_cons, List.nodup_cons, List.forall_mem_append, List.forall_mem_singleton]
  constructor
  · rintro ⟨termsDistinct, ⟨fresh, itemsDistinct⟩, known, here⟩
    exact ⟨⟨termsDistinct, itemsDistinct, known⟩, fresh, here⟩
  · rintro ⟨⟨termsDistinct, itemsDistinct, known⟩, fresh, here⟩
    exact ⟨termsDistinct, ⟨fresh, itemsDistinct⟩, known, here⟩

theorem consistent_of_nodup {terms : List Term} (distinct : (terms.map (·.id)).Nodup) :
    Consistent ⟨terms, []⟩ :=
  ⟨distinct, List.nodup_nil, fun _ member => absurd member List.not_mem_nil⟩

theorem consistent_iff_of_perm {snapshot other : Snapshot}
    (terms : snapshot.terms.Perm other.terms) (items : snapshot.items.Perm other.items) :
    snapshot.Consistent ↔ other.Consistent := by
  simp only [Consistent, (terms.map (·.id)).nodup_iff, (items.map (·.id)).nodup_iff,
    (terms.map (·.id)).mem_iff, items.mem_iff]

end Snapshot

namespace Catalog

/-- A catalog has the terms and the items that a snapshot lists, and the last id is the greatest of
theirs, or 0 if that is greater. -/
structure Holds (catalog : Catalog) (snapshot : Snapshot) : Prop where
  term_iff : ∀ {id : Int64} {term : Term}, catalog.term? id = some term ↔
    term ∈ snapshot.terms ∧ term.id = id
  item_iff : ∀ {id : Int64} {content : Content}, catalog.item? id = some content ↔
    ∃ listed ∈ snapshot.items, listed.id = id ∧ content = listed.collapsed
  last_mem : catalog.lastId ∈ 0 :: snapshot.ids
  le_last : ∀ id ∈ 0 :: snapshot.ids, id ≤ catalog.lastId

theorem holds_empty : empty.Holds {} where
  term_iff := by simp [empty, term?]
  item_iff := by simp [empty, item?]
  last_mem := List.mem_cons_self
  le_last := by simp [Snapshot.ids, empty]

namespace Holds

section Records

variable {catalog other : Catalog} {snapshot : Snapshot} (holds : catalog.Holds snapshot)

include holds

theorem contains_term_iff {id : Int64} :
    catalog.terms.contains id ↔ id ∈ snapshot.terms.map (·.id) := by
  rw [Table.contains_iff, List.mem_map]
  exact exists_congr fun term => holds.term_iff

theorem contains_item_iff {id : Int64} :
    catalog.items.contains id ↔ id ∈ snapshot.items.map (·.id) := by
  rw [Table.contains_iff, List.mem_map]
  constructor
  · rintro ⟨content, found⟩
    obtain ⟨listed, member, same, _⟩ := holds.item_iff.mp found
    exact ⟨listed, member, same⟩
  · rintro ⟨listed, member, same⟩
    exact ⟨_, holds.item_iff.mpr ⟨listed, member, same, rfl⟩⟩

theorem of_perm {snapshot' : Snapshot} (terms : snapshot.terms.Perm snapshot'.terms)
    (items : snapshot.items.Perm snapshot'.items) : catalog.Holds snapshot' := by
  have ids : (0 :: snapshot.ids).Perm (0 :: snapshot'.ids) :=
    ((terms.map _).append (items.map _)).cons 0
  exact
    { term_iff := by simp only [holds.term_iff, terms.mem_iff, implies_true]
      item_iff := by simp only [holds.item_iff, items.mem_iff, implies_true]
      last_mem := ids.mem_iff.mp holds.last_mem
      le_last := fun id member => holds.le_last id (ids.mem_iff.mpr member) }

/-- There is one catalog only that holds a snapshot. -/
theorem eq_of_holds (another : other.Holds snapshot) : catalog = other := by
  obtain ⟨terms, items, last⟩ := catalog
  obtain ⟨terms', items', last'⟩ := other
  have sameTerms : terms = terms' := Table.ext_get? fun key =>
    Option.ext fun term => holds.term_iff.trans another.term_iff.symm
  have sameItems : items = items' := Table.ext_get? fun key =>
    Option.ext fun content => holds.item_iff.trans another.item_iff.symm
  have sameLast : last = last' := Int64.le_antisymm
    (another.le_last last holds.last_mem) (holds.le_last last' another.last_mem)
  rw [sameTerms, sameItems, sameLast]

end Records

/-! ### One more term or item -/

theorem last_insert {last : Int64} (id : Int64) {ids : List Int64} (member : last ∈ ids)
    (above : ∀ other ∈ ids, other ≤ last) :
    (if last < id then id else last) ∈ id :: ids ∧
      ∀ other ∈ id :: ids, other ≤ if last < id then id else last := by
  obtain ⟨lastLe, idLe⟩ := le_raised last id
  refine ⟨?_, List.forall_mem_cons.mpr ⟨idLe, fun other among => ?_⟩⟩
  · split
    · exact List.mem_cons_self
    · exact List.mem_cons_of_mem _ member
  · exact Int64.le_trans (above other among) lastLe

variable {catalog after : Catalog} {terms : List Term} {items : List Content}

theorem loadTerm (holds : catalog.Holds ⟨terms, items⟩) {term : Term}
    (loaded : catalog.loadTerm term = .ok after) : after.Holds ⟨terms ++ [term], items⟩ := by
  obtain ⟨free, rfl⟩ := loadTerm_eq_ok_iff.mp loaded
  have ids (id : Int64) : id ∈ 0 :: Snapshot.ids ⟨terms ++ [term], items⟩ ↔
      id ∈ term.id :: 0 :: Snapshot.ids ⟨terms, items⟩ := by
    grind [Snapshot.ids]
  obtain ⟨member, above⟩ := last_insert term.id holds.last_mem holds.le_last
  refine ⟨fun {id found} => ?_, holds.item_iff, (ids _).mpr member,
    fun id among => above id ((ids id).mp among)⟩
  have old : catalog.terms.get? id = some found ↔ found ∈ terms ∧ found.id = id := holds.term_iff
  rw [term?, Table.get?_insert_eq_some_iff (Table.contains_eq_false_iff.mp free), old]
  grind

theorem loadItem (holds : catalog.Holds ⟨terms, items⟩) {content : Content}
    (loaded : catalog.loadItem content = .ok after) : after.Holds ⟨terms, items ++ [content]⟩ := by
  obtain ⟨free, _, rfl⟩ := loadItem_eq_ok_iff.mp loaded
  have ids (id : Int64) : id ∈ 0 :: Snapshot.ids ⟨terms, items ++ [content]⟩ ↔
      id ∈ content.id :: 0 :: Snapshot.ids ⟨terms, items⟩ := by
    grind [Snapshot.ids]
  have collapsed : { content with terms := appendNew [] content.terms } = content.collapsed := by
    rw [appendNew_eq, List.nil_append, List.removeAll_nil, Content.collapsed]
  obtain ⟨member, above⟩ := last_insert content.id holds.last_mem holds.le_last
  refine ⟨holds.term_iff, fun {id found} => ?_, (ids _).mpr member,
    fun id among => above id ((ids id).mp among)⟩
  have old : catalog.items.get? id = some found ↔
      ∃ listed ∈ items, listed.id = id ∧ found = listed.collapsed := holds.item_iff
  rw [item?, collapsed, Table.get?_insert_eq_some_iff (Table.contains_eq_false_iff.mp free), old]
  grind

end Holds

theorem loadTerms_eq_foldlM (catalog : Catalog) (terms : List Term) :
    catalog.loadTerms terms = terms.foldlM loadTerm catalog := by
  induction terms generalizing catalog with
  | nil => rfl
  | cons term rest ih => simp only [loadTerms, List.foldlM_cons, ih]

theorem loadItems_eq_foldlM (catalog : Catalog) (items : List Content) :
    catalog.loadItems items = items.foldlM loadItem catalog := by
  induction items generalizing catalog with
  | nil => rfl
  | cons content rest ih => simp only [loadItems, List.foldlM_cons, ih]

section Run

variable {catalog : Catalog} {terms : List Term} {items : List Content}

theorem exists_loadTerm_iff (holds : catalog.Holds ⟨terms, items⟩) {term : Term} :
    (∃ next, catalog.loadTerm term = .ok next) ↔ term.id ∉ terms.map (·.id) := by
  simp only [loadTerm_eq_ok_iff, exists_and_left, exists_eq, and_true, ← holds.contains_term_iff,
    Bool.not_eq_true]

theorem exists_loadItem_iff (holds : catalog.Holds ⟨terms, items⟩) {content : Content} :
    (∃ next, catalog.loadItem content = .ok next) ↔
      content.id ∉ items.map (·.id) ∧ ∀ id ∈ content.terms, id ∈ terms.map (·.id) := by
  simp only [loadItem_eq_ok_iff, exists_and_left, exists_eq, and_true, holds.contains_term_iff,
    ← holds.contains_item_iff, Bool.not_eq_true]

theorem tracks_loadTerm :
    Tracks loadTerm (fun catalog done => catalog.Holds ⟨done, []⟩)
      (fun done => (done.map (·.id)).Nodup)
      fun done term error => term.id ∈ done.map (·.id) ∧ error = .duplicateTerm term.id where
  kept held loaded := held.loadTerm loaded
  possible {_ done term} held distinct := by
    rw [exists_loadTerm_iff held, ((List.perm_append_singleton term done).map (·.id)).nodup_iff,
      List.map_cons, List.nodup_cons, and_iff_left distinct]
  refused held := by rw [loadTerm_eq_error_iff, held.contains_term_iff]
  of_append all := by
    rw [List.map_append] at all
    exact (List.nodup_append.mp all).1

theorem tracks_loadItem (terms : List Term) :
    Tracks loadItem (fun catalog done => catalog.Holds ⟨terms, done⟩)
      (fun done => Snapshot.Consistent ⟨terms, done⟩)
      fun done item error => item.id ∈ done.map (·.id) ∧ error = .duplicateItem item.id ∨
        item.id ∉ done.map (·.id) ∧
          ∃ missing, (∃ known rest, item.terms = known ++ missing :: rest ∧
            (∀ id ∈ known, id ∈ terms.map (·.id)) ∧ missing ∉ terms.map (·.id)) ∧
          error = .unknownReference item.id missing where
  kept held loaded := held.loadItem loaded
  possible held consistent := by
    rw [exists_loadItem_iff held, Snapshot.consistent_append_singleton, and_iff_right consistent]
  refused {catalog _ item _} held := by
    have present (id : Int64) : (catalog.term? id).isSome ↔ id ∈ terms.map (·.id) :=
      held.contains_term_iff
    have absent (id : Int64) : catalog.term? id = none ↔ id ∉ terms.map (·.id) := by
      rw [← present, Option.not_isSome_iff_eq_none]
    simp only [loadItem_eq_error_iff, held.contains_item_iff, firstUnknown?_eq_some_iff, present,
      absent, ← Bool.not_eq_true]
  of_append all := all.of_append

end Run

/-! ### Whole snapshots -/

variable {snapshot : Snapshot} {catalog : Catalog}

theorem holds_loadTerms {terms : List Term} (loaded : empty.loadTerms terms = .ok catalog) :
    catalog.Holds ⟨terms, []⟩ := by
  rw [loadTerms_eq_foldlM] at loaded
  exact tracks_loadTerm.foldlM_holds holds_empty loaded

theorem holds_ofSnapshot (loaded : ofSnapshot snapshot = .ok catalog) :
    catalog.Holds snapshot := by
  obtain ⟨between, first, others⟩ := ofSnapshot_eq_ok_iff.mp loaded
  rw [loadItems_eq_foldlM] at others
  exact (tracks_loadItem snapshot.terms).foldlM_holds (holds_loadTerms first) others

theorem exists_loadTerms_iff {terms : List Term} :
    (∃ catalog, empty.loadTerms terms = .ok catalog) ↔ (terms.map (·.id)).Nodup := by
  simp only [loadTerms_eq_foldlM]
  exact tracks_loadTerm.exists_foldlM_iff holds_empty List.nodup_nil

theorem exists_ofSnapshot_iff :
    (∃ catalog, ofSnapshot snapshot = .ok catalog) ↔ snapshot.Consistent := by
  have items {between : Catalog} (first : empty.loadTerms snapshot.terms = .ok between) :
      (∃ catalog, between.loadItems snapshot.items = .ok catalog) ↔ snapshot.Consistent := by
    have distinct := exists_loadTerms_iff.mp ⟨between, first⟩
    rw [show snapshot = ⟨snapshot.terms, [] ++ snapshot.items⟩ from rfl]
    simp only [loadItems_eq_foldlM]
    exact (tracks_loadItem snapshot.terms).exists_foldlM_iff (holds_loadTerms first)
      (Snapshot.consistent_of_nodup distinct)
  simp only [ofSnapshot_eq_ok_iff]
  constructor
  · rintro ⟨catalog, between, first, others⟩
    exact (items first).mp ⟨catalog, others⟩
  · intro consistent
    obtain ⟨between, first⟩ := exists_loadTerms_iff.mpr consistent.1
    obtain ⟨catalog, others⟩ := (items first).mpr consistent
    exact ⟨catalog, between, first, others⟩

theorem loadTerms_eq_error_iff {terms : List Term} {error : CatalogError} :
    empty.loadTerms terms = .error error ↔
      ∃ before term after, terms = before ++ term :: after ∧ (before.map (·.id)).Nodup ∧
        term.id ∈ before.map (·.id) ∧ error = .duplicateTerm term.id := by
  rw [loadTerms_eq_foldlM]
  exact tracks_loadTerm.foldlM_eq_error_iff holds_empty List.nodup_nil

theorem loadItems_eq_error_iff {terms : List Term} {items : List Content} {error : CatalogError}
    (first : empty.loadTerms terms = .ok catalog) :
    catalog.loadItems items = .error error ↔
      ∃ before item after, items = before ++ item :: after ∧ Snapshot.Consistent ⟨terms, before⟩ ∧
        (item.id ∈ before.map (·.id) ∧ error = .duplicateItem item.id ∨
          item.id ∉ before.map (·.id) ∧
            ∃ missing, (∃ known rest, item.terms = known ++ missing :: rest ∧
              (∀ id ∈ known, id ∈ terms.map (·.id)) ∧ missing ∉ terms.map (·.id)) ∧
            error = .unknownReference item.id missing) := by
  have distinct := exists_loadTerms_iff.mp ⟨catalog, first⟩
  rw [loadItems_eq_foldlM]
  exact (tracks_loadItem terms).foldlM_eq_error_iff (holds_loadTerms first)
    (Snapshot.consistent_of_nodup distinct)

theorem ofSnapshot_eq_error_iff {error : CatalogError} :
    ofSnapshot snapshot = .error error ↔ snapshot.FirstFault error := by
  rw [ofSnapshot_eq_error_iff_passes, loadTerms_eq_error_iff]
  constructor
  · rintro (⟨before, term, after, split, distinct, repeated, rfl⟩ | ⟨between, first, failed⟩)
    · exact .term split distinct repeated
    · obtain ⟨before, item, after, split, consistent, ⟨repeated, rfl⟩ |
        ⟨fresh, missing, ⟨known, rest, listed, present, absent⟩, rfl⟩⟩ :=
        (loadItems_eq_error_iff first).mp failed
      · exact .item split consistent repeated
      · exact .reference split consistent fresh listed present absent
  · intro fault
    cases fault with
    | term split distinct repeated => exact .inl ⟨_, _, _, split, distinct, repeated, rfl⟩
    | item split consistent repeated =>
      obtain ⟨between, first⟩ := exists_loadTerms_iff.mpr consistent.1
      refine .inr ⟨between, first, (loadItems_eq_error_iff first).mpr ?_⟩
      exact ⟨_, _, _, split, consistent, .inl ⟨repeated, rfl⟩⟩
    | reference split consistent fresh listed present absent =>
      obtain ⟨between, first⟩ := exists_loadTerms_iff.mpr consistent.1
      refine .inr ⟨between, first, (loadItems_eq_error_iff first).mpr ?_⟩
      exact ⟨_, _, _, split, consistent, .inr ⟨fresh, _, ⟨_, _, listed, present, absent⟩, rfl⟩⟩

theorem toOption_ofSnapshot_of_perm {other : Snapshot}
    (terms : snapshot.terms.Perm other.terms) (items : snapshot.items.Perm other.items) :
    (ofSnapshot other).toOption = (ofSnapshot snapshot).toOption := by
  have either := Snapshot.consistent_iff_of_perm terms items
  rw [← exists_ofSnapshot_iff, ← exists_ofSnapshot_iff] at either
  cases loaded : ofSnapshot snapshot with
  | ok catalog =>
    obtain ⟨again, reloaded⟩ := either.mp ⟨catalog, loaded⟩
    have same := ((holds_ofSnapshot loaded).of_perm terms items).eq_of_holds
      (holds_ofSnapshot reloaded)
    rw [reloaded, same]
  | error error =>
    cases reloaded : ofSnapshot other with
    | ok catalog =>
      obtain ⟨again, impossible⟩ := either.mpr ⟨catalog, reloaded⟩
      cases loaded.symm.trans impossible
    | error other => rfl

theorem lastId_change {next : Change} (untaken : catalog.taken? next = none) :
    (catalog.change next).lastId = catalog.lastId := by
  rcases catalog.change_cases next with ⟨_, same⟩ | ⟨term, taken, _⟩ | ⟨content, taken, _⟩ |
    ⟨item, content, new, _, _, assigned⟩
  · rw [same]
  · cases untaken.symm.trans taken
  · cases untaken.symm.trans taken
  · rw [assigned]

/-- Whatever else is done before, the first id that is taken is the next one there was. -/
theorem eq_nextId_of_takenBy {list : List Change} {id : Int64}
    (first : (catalog.takenBy list).head? = some id) : id = catalog.nextId := by
  induction list generalizing catalog with
  | nil => cases first
  | cons next rest ih =>
    rw [takenBy] at first
    cases taken : catalog.taken? next with
    | some new =>
      rw [taken] at first
      rw [← Option.some.inj first]
      exact eq_nextId_of_taken? taken
    | none =>
      rw [taken] at first
      rw [ih first, nextId, lastId_change taken, nextId]

/-- A snapshot is accepted exactly if it is consistent. The catalog then has the terms and items
that are listed, with every item's terms once. The first id that is given out later is one more than
the greatest of all ids, or than 0; only where that is the greatest number there is, ids begin again
at the least one. The order in which terms and items are listed makes no difference. A snapshot that
is refused is refused for its first fault. -/
theorem ofSnapshot_accepts_consistent (snapshot : Snapshot) :
    ((∃ catalog, ofSnapshot snapshot = .ok catalog) ↔ snapshot.Consistent) ∧
    (∀ catalog, ofSnapshot snapshot = .ok catalog → catalog.Holds snapshot ∧
      ∀ list id, (catalog.takenBy list).head? = some id →
        ∃ greatest ∈ 0 :: snapshot.ids, (∀ other ∈ 0 :: snapshot.ids, other ≤ greatest) ∧
          (greatest < Int64.maxValue → id.toInt = greatest.toInt + 1) ∧
          (greatest = Int64.maxValue → id = Int64.minValue)) ∧
    (∀ other : Snapshot, snapshot.terms.Perm other.terms → snapshot.items.Perm other.items →
      (ofSnapshot other).toOption = (ofSnapshot snapshot).toOption) ∧
    ∀ error, ofSnapshot snapshot = .error error ↔ snapshot.FirstFault error := by
  refine ⟨exists_ofSnapshot_iff, ?_, fun other => toOption_ofSnapshot_of_perm,
    fun error => ofSnapshot_eq_error_iff⟩
  intro catalog loaded
  have holds := holds_ofSnapshot loaded
  refine ⟨holds, fun list id first => ?_⟩
  obtain rfl := eq_nextId_of_takenBy first
  refine ⟨catalog.lastId, holds.last_mem, holds.le_last, HasRoom.toInt_nextId, fun last => ?_⟩
  rw [nextId, last]
  rfl

/-- Ids below 0, an id that a term and an item share and a term listed twice; then an item with two
unknown terms before one with a repeated id. -/
theorem ofSnapshot_accepts_consistent_of_shared_ids :
    let big : Term := ⟨7, .tag, "big"⟩
    let animal : Term := ⟨-3, .category, "animal"⟩
    let cat : Content := ⟨7, "post", "cat", [-3, 7, -3]⟩
    let fern : Content := ⟨9, "post", "fern", []⟩
    let moss : Content := ⟨4, "page", "moss", [7, 8, 5]⟩
    let snapshot : Snapshot := ⟨[big, animal], [cat, fern]⟩
    let reordered : Snapshot := ⟨[animal, big], [fern, cat]⟩
    let broken : Snapshot := ⟨[big, animal], [cat, moss, cat]⟩
    let list : List Change := [.addTerm .tag "big", .assign 9 [7], .addItem "post" "oak"]
    ∃ catalog, ofSnapshot snapshot = .ok catalog ∧ snapshot.Consistent ∧ catalog.Holds snapshot ∧
      catalog.item? 7 = some ⟨7, "post", "cat", [-3, 7]⟩ ∧
      (catalog.takenBy list).head? = some 10 ∧
      (∃ greatest ∈ 0 :: snapshot.ids, (∀ other ∈ 0 :: snapshot.ids, other ≤ greatest) ∧
        (greatest < Int64.maxValue → (10 : Int64).toInt = greatest.toInt + 1) ∧
        (greatest = Int64.maxValue → (10 : Int64) = Int64.minValue)) ∧
      snapshot.terms.Perm reordered.terms ∧ snapshot.items.Perm reordered.items ∧
      (ofSnapshot reordered).toOption = (ofSnapshot snapshot).toOption ∧
      ofSnapshot broken = .error (.unknownReference 4 8) ∧
      broken.FirstFault (.unknownReference 4 8) := by
  intro big animal cat fern moss snapshot reordered broken list
  refine ⟨_, rfl, ?_⟩
  have loaded : ofSnapshot snapshot = .ok _ := rfl
  have refused : ofSnapshot broken = .error (.unknownReference 4 8) := rfl
  have terms : snapshot.terms.Perm reordered.terms := .swap _ _ _
  have items : snapshot.items.Perm reordered.items := .swap _ _ _
  obtain ⟨accepted, held, same, _⟩ := ofSnapshot_accepts_consistent snapshot
  obtain ⟨_, _, _, faults⟩ := ofSnapshot_accepts_consistent broken
  obtain ⟨holds, first⟩ := held _ loaded
  exact ⟨accepted.mp ⟨_, loaded⟩, holds, rfl, rfl, first list 10 rfl, terms, items,
    same reordered terms items, refused, (faults _).mp refused⟩

/-- A snapshot with the greatest number for an id is loaded, and no id that exceeds it is left. -/
theorem first_id_after_greatest_number :
    let snapshot : Snapshot := ⟨[⟨Int64.maxValue, .tag, "big"⟩], []⟩
    ∃ catalog, ofSnapshot snapshot = .ok catalog ∧
      (catalog.takenBy [.addItem "post" "oak"]).head? = some Int64.minValue ∧
      Int64.maxValue ∈ snapshot.ids ∧
      ¬∃ greatest ∈ 0 :: snapshot.ids, (∀ other ∈ 0 :: snapshot.ids, other ≤ greatest) ∧
        Int64.minValue.toInt = greatest.toInt + 1 := by
  intro snapshot
  refine ⟨_, rfl, rfl, List.mem_singleton.mpr rfl, ?_⟩
  rintro ⟨greatest, _, _, same⟩
  have least : Int64.minValue.toInt ≤ greatest.toInt := greatest.minValue_le_toInt
  omega

end Catalog

end TaxonomyQuery
