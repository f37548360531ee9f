import Mathlib.Data.List.Basic
import Mathlib.Data.Option.Basic
import TaxonomyQuery.Proofs.WrittenClauses
/-!
What a lookup has a say in: the ids listed for patterns that are written for names, and nothing
else. Groups stand, wrap and name their relations alike whatever it finds, even where it finds
nothing.
-/

set_option autoImplicit false

namespace TaxonomyQuery

/-! ### Outlines -/

/-- The clause with its argument left out. -/
def Clause.outline (clause : Clause) : Clause := { clause with terms := .many [] }

namespace Item

mutual

def outline : Item → Item
  | .clause single => .clause single.outline
  | .group relation items => .group relation (itemsOutline items)

def itemsOutline : List Item → List Item
  | [] => []
  | item :: rest => item.outline :: itemsOutline rest

end

theorem itemsOutline_eq_map (items : List Item) : itemsOutline items = items.map outline := by
  induction items with
  | nil => rfl
  | cons item rest ih => simp only [itemsOutline, List.map_cons, ih]

@[simp] theorem outline_clause (single : Clause) :
    (clause single).outline = .clause single.outline := by
  simp only [outline]

@[simp] theorem outline_group (relation : Option Relation) (items : List Item) :
    (group relation items).outline = .group relation (items.map outline) := by
  simp only [outline, itemsOutline_eq_map]

theorem clauses_outline (item : Item) : item.outline.clauses = item.clauses.map (·.outline) := by
  induction item with
  | clause single => simp
  | group relation items ih =>
    rw [outline_group, clauses_group, clauses_group, List.flatMap_map, List.map_flatMap]
    exact List.flatMap_congr ih

theorem items_eq_of_outline_eq {items others : List Item}
    (each : ∀ item ∈ items, ∀ other : Item, item.outline = other.outline →
      item.clauses = other.clauses → item = other)
    (outlines : items.map outline = others.map outline)
    (clauses : items.flatMap (·.clauses) = others.flatMap (·.clauses)) : items = others := by
  induction items generalizing others with
  | nil => exact (List.map_eq_nil_iff.mp outlines.symm).symm
  | cons item items ih =>
    cases others with
    | nil => cases outlines
    | cons other others =>
      obtain ⟨here, there⟩ := List.cons.inj outlines
      obtain ⟨first, rest⟩ := List.forall_mem_cons.mp each
      -- Outlines that agree have as many clauses, so the lists of clauses part at one place.
      have count : item.clauses.length = other.clauses.length := by
        have same := congrArg (fun outlined => outlined.clauses.length) here
        simpa only [clauses_outline, List.length_map] using same
      obtain ⟨own, others⟩ := List.append_inj clauses count
      rw [first other here own, ih rest there others]

/-- An item is made up of its outline and its clauses. -/
theorem eq_of_outline_eq {first second : Item} (outlines : first.outline = second.outline)
    (clauses : first.clauses = second.clauses) : first = second := by
  induction first generalizing second with
  | clause single =>
    cases second with
    | clause other => simpa using clauses
    | group relation items => simp at outlines
  | group relation items ih =>
    cases second with
    | clause other => simp at outlines
    | group other others =>
      rw [outline_group, outline_group] at outlines
      rw [clauses_group, clauses_group] at clauses
      obtain ⟨rfl, below⟩ := Item.group.inj outlines
      rw [items_eq_of_outline_eq (fun item member other => ih item member) below clauses]

end Item

namespace Group

def outline (group : Group) : Group := ⟨group.relation, group.items.map (·.outline)⟩

@[simp] theorem toItem_outline (group : Group) : group.toItem.outline = group.outline.toItem :=
  Item.outline_group _ _

theorem eq_of_outline_eq {first second : Group} (outlines : first.outline = second.outline)
    (clauses : first.clauses = second.clauses) : first = second := by
  have same : first.toItem = second.toItem :=
    Item.eq_of_outline_eq (by rw [toItem_outline, toItem_outline, outlines]) clauses
  obtain ⟨relation, items⟩ := Item.group.inj same
  cases first
  cases second
  cases relation
  cases items
  rfl

theorem toConjunct_outline (group : Group) :
    group.toConjunct.outline = group.outline.toConjunct := by
  obtain ⟨_ | _ | _, items⟩ := group <;> simp [toConjunct, outline, toItem]

theorem ofClauses_outline (clauses : List Clause) :
    (ofClauses clauses).outline = ofClauses (clauses.map (·.outline)) := by
  simp [ofClauses, outline, Function.comp_def]

theorem ofChildren_outline (relation : Relation) (children : List Group) :
    (ofChildren relation children).outline = ofChildren relation (children.map (·.outline)) := by
  rw [ofChildren, ofChildren, outline, List.map_map, List.map_map]
  simp only [Function.comp_def, toItem_outline, toConjunct_outline]

theorem prepend_outline (clauses : List Clause) (group : Group) :
    (group.prepend clauses).outline = group.outline.prepend (clauses.map (·.outline)) := by
  rw [prepend, prepend, List.isEmpty_map]
  split <;> simp [outline, toItem]

end Group

theorem Condition.toClause_outline (lookup other : TermLookup) (condition : Condition) :
    (condition.toClause lookup).outline = (condition.toClause other).outline := by
  rw [toClause, toClause]
  split <;> rfl

namespace Filter

theorem map_clauses_outline (lookup other : TermLookup) (filter : Filter) :
    (filter.clauses lookup).map (·.outline) = (filter.clauses other).map (·.outline) := by
  rw [clauses, clauses, List.map_map, List.map_map]
  exact List.map_congr_left fun condition _ => condition.toClause_outline lookup other

theorem join_outline (lookup : TermLookup) (filter : Filter) (groups : List Group) :
    (filter.join lookup groups).outline =
      match filter.joining? with
      | none => .ofClauses ((filter.clauses lookup).map (·.outline))
      | some relation =>
        (Group.ofChildren relation (groups.map (·.outline))).prepend
          ((filter.clauses lookup).map (·.outline)) := by
  rw [join]
  cases filter.joining? with
  | none => exact Group.ofClauses_outline _
  | some relation => rw [Group.prepend_outline, Group.ofChildren_outline]

/-- No lookup changes how a filter is laid out. -/
theorem assemble_outline (lookup other : TermLookup) (filter : Filter) :
    (filter.assemble lookup).outline = (filter.assemble other).outline := by
  induction filter with
  | level filter ih =>
    rw [assemble_eq, assemble_eq, join_outline, join_outline, map_clauses_outline lookup other,
      List.map_map, List.map_map]
    have below : filter.children.map (Group.outline ∘ (·.assemble lookup)) =
        filter.children.map (Group.outline ∘ (·.assemble other)) := List.map_congr_left ih
    rw [below]

/-! ### Where patterns are written -/

/-- Where something is written in the filter, level after level as the walk goes. -/
def places (filter : Filter) : List (Filter × Slot) :=
  (filter.walk 0).flatMap fun level =>
    (Slot.all.filter level.2.writes).map fun slot => (level.2, slot)

end Filter

/-- What is written here is a pattern for names. -/
def Slot.isNamePattern (slot : Slot) : Bool := slot.field = .name && slot.comparison.isLike

def OperatorSet.pattern? {α : Type} (set : OperatorSet α) : Comparison → Option α
  | .like => set.like
  | .notLike => set.notLike
  | _ => none

namespace Filter

/-- The pattern for names of a taxonomy that is written on a level with a comparison. -/
def pattern? (filter : Filter) (taxonomy : Taxonomy) (comparison : Comparison) : Option String :=
  (filter.predicate? taxonomy).bind fun predicate => predicate.name.bind (·.pattern? comparison)

/-- Some level asks for the names of the taxonomy that the pattern fits, or for all others. -/
def AsksFor (filter : Filter) (taxonomy : Taxonomy) (pattern : String) : Prop :=
  ∃ level ∈ filter.walk 0, ∃ comparison, level.2.pattern? taxonomy comparison = some pattern

/-- Each clause of a filter's group comes from one of the places. -/
theorem assemble_clauses_eq_places (lookup : TermLookup) (filter : Filter) :
    (filter.assemble lookup).clauses.map some =
      filter.places.map fun place => place.1.clauseAt? lookup place.2 := by
  rw [assemble_clauses lookup 0, places, List.map_flatMap, List.map_flatMap]
  apply List.flatMap_congr
  intro level _
  rw [clauses_eq, List.map_filterMap_some_eq_filter_map_isSome, List.filter_map, List.map_map]
  simp only [Function.comp_def, isSome_clauseAt?]

theorem clauseAt?_congr {lookup other : TermLookup} {filter : Filter} {slot : Slot}
    (agree : slot.field = .name → ∀ pattern,
      filter.pattern? slot.taxonomy slot.comparison = some pattern →
        lookup slot.taxonomy pattern = other slot.taxonomy pattern) :
    filter.clauseAt? lookup slot = filter.clauseAt? other slot := by
  obtain ⟨taxonomy, field, comparison⟩ := slot
  rw [clauseAt?, clauseAt?]
  apply Option.bind_congr
  intro predicate written
  cases field with
  | id => rfl
  | name =>
    apply Option.bind_congr
    intro set named
    have patterns (pattern : String) (asked : set.pattern? comparison = some pattern) :
        lookup taxonomy pattern = other taxonomy pattern :=
      agree rfl pattern (by rw [pattern?, written, Option.bind_some, named, Option.bind_some, asked])
    cases comparison with
    | like =>
      exact Option.map_congr fun pattern asked => by rw [patterns pattern asked]
    | notLike =>
      exact Option.map_congr fun pattern asked => by rw [patterns pattern asked]
    | isIn | notIn | equal | notEqual => rfl

theorem isNamePattern_of_pattern? {filter : Filter} {slot : Slot} {pattern : String}
    (named : slot.field = .name)
    (written : filter.pattern? slot.taxonomy slot.comparison = some pattern) :
    slot.isNamePattern := by
  obtain ⟨taxonomy, field, comparison⟩ := slot
  obtain ⟨predicate, _, written⟩ := Option.bind_eq_some_iff.mp written
  obtain ⟨set, _, written⟩ := Option.bind_eq_some_iff.mp written
  cases comparison <;> simp_all [OperatorSet.pattern?, Slot.isNamePattern, Comparison.isLike]

theorem clauseAt?_of_not_isNamePattern {slot : Slot} (plain : slot.isNamePattern = false)
    (lookup other : TermLookup) (filter : Filter) :
    filter.clauseAt? lookup slot = filter.clauseAt? other slot := by
  apply clauseAt?_congr
  intro named pattern written
  rw [isNamePattern_of_pattern? named written] at plain
  cases plain

theorem level_mem_walk_of_mem_places {filter : Filter} {place : Filter × Slot}
    (member : place ∈ filter.places) : ∃ level ∈ filter.walk 0, level.2 = place.1 := by
  obtain ⟨level, among, written⟩ := List.mem_flatMap.mp member
  obtain ⟨slot, _, rfl⟩ := List.mem_map.mp written
  exact ⟨level, among, rfl⟩

/-- Lookups that agree on the patterns of a filter assemble it alike: outline and clauses are the
same, and with them the whole. -/
theorem assemble_eq_of_agree {lookup other : TermLookup} {filter : Filter}
    (agree : ∀ taxonomy pattern, filter.AsksFor taxonomy pattern →
      lookup taxonomy pattern = other taxonomy pattern) :
    filter.assemble lookup = filter.assemble other := by
  apply Group.eq_of_outline_eq (filter.assemble_outline lookup other)
  apply List.map_injective_iff.mpr (Option.some_injective Clause)
  rw [assemble_clauses_eq_places, assemble_clauses_eq_places]
  apply List.map_congr_left
  intro place member
  obtain ⟨level, among, same⟩ := level_mem_walk_of_mem_places member
  apply clauseAt?_congr
  intro _ pattern written
  exact agree place.2.taxonomy pattern ⟨level, among, place.2.comparison, same ▸ written⟩

/-- With two lookups a filter is refused for the same fault or compiled to groups of one outline,
whose clauses differ only where patterns for names are written. With lookups that agree on these
patterns all is the same. -/
theorem lookup_decides_patterns_only (lookup other : TermLookup) (limit depth : Nat)
    (filter : Filter) :
    ((∃ error, filter.compileAt lookup limit depth = .error error ∧
        filter.compileAt other limit depth = .error error) ∨
      ∃ group replaced, filter.compileAt lookup limit depth = .ok group ∧
        filter.compileAt other limit depth = .ok replaced ∧
        replaced.outline = group.outline ∧
        group.clauses.map some =
          filter.places.map (fun place => place.1.clauseAt? lookup place.2) ∧
        ∀ (index : Nat) place, filter.places[index]? = some place → place.2.isNamePattern = false →
          replaced.clauses[index]? = group.clauses[index]?) ∧
    ((∀ taxonomy pattern, filter.AsksFor taxonomy pattern →
        lookup taxonomy pattern = other taxonomy pattern) →
      filter.compileAt lookup limit depth = filter.compileAt other limit depth) := by
  rw [compileAt_eq, compileAt_eq]
  constructor
  · cases fault : filter.refusal? limit depth with
    | some error => exact .inl ⟨error, rfl, rfl⟩
    | none =>
      refine .inr ⟨_, _, rfl, rfl, filter.assemble_outline other lookup,
        assemble_clauses_eq_places lookup filter, fun index place here plain => ?_⟩
      have written (known : TermLookup) :
          (filter.assemble known).clauses[index]?.map some =
            some (place.1.clauseAt? known place.2) := by
        rw [← List.getElem?_map, assemble_clauses_eq_places, List.getElem?_map, here,
          Option.map_some]
      apply Option.map_injective (Option.some_injective Clause)
      rw [written, written, clauseAt?_of_not_isNamePattern plain other lookup]
  · intro agree
    rw [assemble_eq_of_agree agree]

/-- A pattern that one lookup finds nothing for, next to an id written as a pattern. -/
theorem lookup_decides_patterns_only_of_nothing_found :
    let found : TermLookup := fun _ _ => [2, 5]
    let narrow : TermLookup := fun _ pattern => if pattern = "ani" then [2, 5] else []
    let asked : Filter :=
      { tag := some { name := some { notLike := some "ani" }, id := some { like := some 7 } } }
    let filter : Filter := { disjuncts := some [asked, {}] }
    let group := filter.assemble found
    let replaced := filter.assemble .none
    filter.compileAt found 1 0 = .ok group ∧ filter.compileAt .none 1 0 = .ok replaced ∧
      group.clauses = [⟨.tag, .id, .ids [2, 5], .notIn⟩, ⟨.tag, .id, .ids [7], .isIn⟩] ∧
      replaced.clauses = [⟨.tag, .id, .ids [], .notIn⟩, ⟨.tag, .id, .ids [7], .isIn⟩] ∧
      replaced.outline = group.outline ∧ replaced.clauses[1]? = group.clauses[1]? ∧
      (∀ taxonomy pattern, filter.AsksFor taxonomy pattern →
        found taxonomy pattern = narrow taxonomy pattern) ∧
      filter.compileAt found 1 0 = filter.compileAt narrow 1 0 := by
  intro found narrow asked filter group replaced
  have compiled : filter.compileAt found 1 0 = .ok group := rfl
  have recompiled : filter.compileAt .none 1 0 = .ok replaced := rfl
  have agree (taxonomy : Taxonomy) (pattern : String) (asksFor : filter.AsksFor taxonomy pattern) :
      found taxonomy pattern = narrow taxonomy pattern := by
    obtain ⟨level, member, comparison, written⟩ := asksFor
    have levels : filter.walk 0 = [(0, filter), (1, asked), (1, {})] := rfl
    rw [levels] at member
    have only : pattern = "ani" := by
      simp only [List.mem_cons, List.not_mem_nil, or_false] at member
      rcases member with rfl | rfl | rfl <;> cases taxonomy <;> cases comparison <;> cases written
      rfl
    simp only [found, narrow, if_pos only]
  have influence := (lookup_decides_patterns_only found .none 1 0 filter).1
  rcases influence with ⟨error, refused, _⟩ | ⟨one, other, same, instead, outline, _, plain⟩
  · cases compiled.symm.trans refused
  · obtain rfl := Except.ok.inj (compiled.symm.trans same)
    obtain rfl := Except.ok.inj (recompiled.symm.trans instead)
    exact ⟨compiled, recompiled, rfl, rfl, outline, plain 1 _ rfl rfl, agree,
      (lookup_decides_patterns_only found narrow 1 0 filter).2 agree⟩

end Filter

end TaxonomyQuery
