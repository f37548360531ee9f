import TaxonomyQuery.Proofs.BucketCounts
import TaxonomyQuery.Proofs.Growth
/-!
What a term is known by. The term that a name finds is the first of that name in the order of ids.
Ids that are taken come after all others, so no change puts another term in front of it, not even
where a snapshot has several terms of one name.
-/

set_option autoImplicit false

namespace TaxonomyQuery.Catalog

/-- The term is found by its id and by its name, and to add it again gives its id and no more. -/
structure Knows (catalog : Catalog) (term : Term) : Prop where
  byId : catalog.term? term.id = some term
  byName : catalog.termByName? term.taxonomy term.name = some term
  again : catalog.addTerm term.taxonomy term.name = (term.id, catalog)

theorem named_of_termByName? {catalog : Catalog} {taxonomy : Taxonomy} {name : String} {term : Term}
    (found : catalog.termByName? taxonomy name = some term) :
    term.taxonomy = taxonomy ∧ term.name = name := by
  simpa using List.find?_some found

theorem Sound.knows_of_termByName? {catalog : Catalog} (sound : catalog.Sound) {term : Term}
    (found : catalog.termByName? term.taxonomy term.name = some term) : catalog.Knows term where
  byId := sound.mem_terms_iff.mp (List.mem_of_find?_eq_some found)
  byName := found
  again := by
    rcases catalog.addTerm_cases term.taxonomy term.name with ⟨other, taken, same⟩ | ⟨free, _⟩
    · obtain rfl : term = other := Option.some.inj (found.symm.trans taken)
      exact same
    · cases found.symm.trans free

/-- Terms that are known have one id exactly if they have one name. -/
theorem Knows.id_eq_iff {catalog : Catalog} {first second : Term} (one : catalog.Knows first)
    (other : catalog.Knows second) :
    first.id = second.id ↔ first.taxonomy = second.taxonomy ∧ first.name = second.name := by
  constructor
  · intro same
    obtain rfl : first = second := by
      have found := one.byId
      rw [same, other.byId] at found
      exact (Option.some.inj found).symm
    exact ⟨rfl, rfl⟩
  · rintro ⟨taxonomy, name⟩
    have found := one.byName
    rw [taxonomy, name, other.byName] at found
    rw [Option.some.inj found]

section Step

variable {catalog : Catalog} (reached : catalog.ReachableWithRoom)

include reached

/-- The next id comes last among the terms, so it is found by a name only where no other is. -/
theorem termByName?_insert_nextId (room : catalog.HasRoom) (taxonomy : Taxonomy) (name : String)
    (term : Term) (last : Int64) :
    termByName?
        { catalog with terms := catalog.terms.insert catalog.nextId term, lastId := last }
        taxonomy name =
      (catalog.termByName? taxonomy name).or
        (if term.taxonomy = taxonomy ∧ term.name = name then some term else none) := by
  have above : ∀ other ∈ catalog.terms.keys, other < catalog.nextId := by
    intro other member
    have below := reached.bounded.le_of_mem_keys (List.mem_append_left _ member)
    exact Std.lt_of_le_of_lt below room.lastId_lt_nextId
  rw [termByName?, Table.values_insert_of_above above, List.find?_append, termByName?]
  congr 1
  split
  · rename_i named
    simp [named]
  · rename_i other
    simpa using other

theorem termByName?_change {next : Change} (room : catalog.HasRoomFor next) {taxonomy : Taxonomy}
    {name : String} {term : Term} (found : catalog.termByName? taxonomy name = some term) :
    (catalog.change next).termByName? taxonomy name = some term := by
  rcases catalog.change_cases next with ⟨_, same⟩ | ⟨other, taken, added⟩ | ⟨_, _, added⟩ |
    ⟨_, _, _, _, _, assigned⟩
  · rw [same, found]
  · rw [added, termByName?_insert_nextId reached (room.hasRoom taken).1, found, Option.some_or]
  · rw [added]
    exact found
  · rw [assigned]
    exact found

theorem knows_addTerm {taxonomy : Taxonomy} {name : String}
    (room : catalog.HasRoomFor (.addTerm taxonomy name)) :
    (catalog.change (.addTerm taxonomy name)).Knows
      ⟨(catalog.addTerm taxonomy name).1, taxonomy, name⟩ := by
  apply (reached.change room).reachable.sound.knows_of_termByName?
  rw [change]
  rcases catalog.addTerm_cases taxonomy name with ⟨term, taken, same⟩ | ⟨free, added⟩
  · obtain ⟨rfl, rfl⟩ := named_of_termByName? taken
    rw [same]
    exact taken
  · rw [added, termByName?_insert_nextId reached (room free), free]
    simp

end Step

section Run

variable {catalog : Catalog} (reached : catalog.ReachableWithRoom) {list : List Change}
  (room : catalog.HasRoomForAll list)

include reached room

theorem termByName?_changes {taxonomy : Taxonomy} {name : String} {term : Term}
    (found : catalog.termByName? taxonomy name = some term) :
    (catalog.changes list).termByName? taxonomy name = some term := by
  induction list generalizing catalog with
  | nil => exact found
  | cons next rest ih =>
    exact ih (reached.change room.1) room.2 (termByName?_change reached room.1 found)

theorem Knows.changes {term : Term} (known : catalog.Knows term) :
    (catalog.changes list).Knows term :=
  (reached.changes room).reachable.sound.knows_of_termByName?
    (termByName?_changes reached room known.byName)

/-- What a run has added, or found already there, is known at its end. -/
theorem knows_of_added {before after : List Change} {taxonomy : Taxonomy} {name : String}
    (split : list = before ++ .addTerm taxonomy name :: after) :
    (catalog.changes list).Knows
      ⟨((catalog.changes before).addTerm taxonomy name).1, taxonomy, name⟩ := by
  obtain rfl := split
  obtain ⟨roomBefore, roomNow, roomAfter⟩ := hasRoomForAll_append.mp room
  have reachedBefore := reached.changes roomBefore
  rw [changes_append, changes_cons]
  exact (knows_addTerm reachedBefore roomNow).changes (reachedBefore.change roomNow) roomAfter

end Run

theorem NamesDiffer.pairwise {catalog : Catalog} (differ : catalog.NamesDiffer) :
    catalog.terms.values.Pairwise fun first second =>
      ¬ (first.taxonomy = second.taxonomy ∧ first.name = second.name) := by
  have named {entry : Int64 × Term} (member : entry ∈ catalog.terms.entries) :
      catalog.isNamed entry.2.taxonomy entry.2.name entry.1 := by
    have found : catalog.term? entry.1 = some entry.2 := Table.mem_entries_iff.mp member
    rw [isNamed, found]
    simp
  refine List.pairwise_map.mpr (catalog.terms.ascending.imp_of_mem ?_)
  rintro first second firstIn secondIn below ⟨taxonomy, name⟩
  have firstNamed := named firstIn
  rw [taxonomy, name] at firstNamed
  exact Std.ne_of_lt below (differ _ _ _ _ firstNamed (named secondIn))

/-- Whatever a catalog began with, the term that was added under a name, or was there before, is
known from then on by the id that was given for it. So two additions of a run give one id exactly if
they have one taxonomy and one name. In a catalog that began empty no two terms ever share both. -/
theorem added_terms_stay_known {catalog : Catalog} (reached : catalog.ReachableWithRoom)
    {list : List Change} (room : catalog.HasRoomForAll list) :
    (∀ before taxonomy name after, list = before ++ .addTerm taxonomy name :: after →
      let id := ((catalog.changes before).addTerm taxonomy name).1
      let last := catalog.changes list
      last.term? id = some ⟨id, taxonomy, name⟩ ∧
        last.termByName? taxonomy name = some ⟨id, taxonomy, name⟩ ∧
        last.addTerm taxonomy name = (id, last)) ∧
    (∀ before taxonomy name between otherTaxonomy otherName after,
      list = before ++ .addTerm taxonomy name ::
        (between ++ .addTerm otherTaxonomy otherName :: after) →
      let middle := before ++ .addTerm taxonomy name :: between
      (((catalog.changes before).addTerm taxonomy name).1 =
          ((catalog.changes middle).addTerm otherTaxonomy otherName).1 ↔
        taxonomy = otherTaxonomy ∧ name = otherName)) ∧
    ∀ run, (empty.changes run).terms.values.Pairwise fun first second =>
      ¬ (first.taxonomy = second.taxonomy ∧ first.name = second.name) := by
  refine ⟨?stays, ?apart, fun run => (namesDiffer_empty.changes run).pairwise⟩
  case stays =>
    intro before taxonomy name after split id last
    have known : last.Knows ⟨id, taxonomy, name⟩ := knows_of_added reached room split
    exact ⟨known.byId, known.byName, known.again⟩
  case apart =>
    intro before taxonomy name between otherTaxonomy otherName after split middle
    have later : list = middle ++ .addTerm otherTaxonomy otherName :: after := by
      rw [split, List.append_assoc, List.cons_append]
    exact (knows_of_added reached room split).id_eq_iff (knows_of_added reached room later)

/-- A snapshot with two terms of one name and one below zero. -/
theorem added_terms_stay_known_among_twins :
    let snapshot : Snapshot :=
      { terms := [⟨5, .tag, "big"⟩, ⟨-2, .tag, "big"⟩, ⟨3, .category, "big"⟩]
        items := [⟨9, "post", "cat", [5]⟩] }
    let list : List Change := [.addTerm .tag "big", .addItem "post" "fern", .addTerm .tag "green",
      .assign 9 [11, -2], .addTerm .category "big", .addTerm .tag "green"]
    ∃ catalog, ofSnapshot snapshot = .ok catalog ∧ catalog.ReachableWithRoom ∧
      catalog.HasRoomForAll list ∧
      let last := catalog.changes list
      (catalog.addTerm .tag "big").1 = -2 ∧ last.term? (-2) = some ⟨-2, .tag, "big"⟩ ∧
        last.termByName? .tag "big" = some ⟨-2, .tag, "big"⟩ ∧
        last.addTerm .tag "big" = (-2, last) ∧
        (((catalog.changes (list.take 2)).addTerm .tag "green").1 =
            ((catalog.changes (list.take 5)).addTerm .tag "green").1 ↔
          (Taxonomy.tag = .tag ∧ "green" = "green")) := by
  intro snapshot list
  refine ⟨_, rfl, ?_⟩
  have loaded : ofSnapshot snapshot = .ok _ := rfl
  have reached := ReachableWithRoom.snapshot loaded
  obtain ⟨stays, apart, _⟩ := @added_terms_stay_known _ reached list (by decide)
  obtain ⟨byId, byName, again⟩ := stays [] .tag "big" list.tail rfl
  exact ⟨reached, by decide, rfl, byId, byName, again,
    apart (list.take 2) .tag "green" [.assign 9 [11, -2], .addTerm .category "big"] .tag "green" []
      rfl⟩

end TaxonomyQuery.Catalog
