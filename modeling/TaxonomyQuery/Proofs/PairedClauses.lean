import Mathlib.Data.List.Forall2
import TaxonomyQuery.Catalog.History
import TaxonomyQuery.Catalog.Query
import TaxonomyQuery.Proofs.ClauseTree
/-!
Groups of one form that differ in their clauses alone. What one of them accepts and the other does
not, is accepted by one of its clauses and not by the clause in the same place of the other.
-/

set_option autoImplicit false

namespace TaxonomyQuery

/-! ### Items of one form -/

namespace Item

/-- Groups stand under the same relations and have as many items, and the clauses that stand at one
place are related. -/
inductive Paired (related : Clause → Clause → Prop) : Item → Item → Prop where
  | clause {single other : Clause} (alike : related single other) :
      Paired related (.clause single) (.clause other)
  | group {relation : Option Relation} {items others : List Item}
      (each : List.Forall₂ (Paired related) items others) :
      Paired related (.group relation items) (.group relation others)

namespace Paired

variable {related : Clause → Clause → Prop} {item other : Item}

@[elab_as_elim]
theorem induct {motive : Item → Item → Prop}
    (clause : ∀ single other, related single other → motive (.clause single) (.clause other))
    (group : ∀ relation items others, List.Forall₂ motive items others →
      motive (.group relation items) (.group relation others))
    (paired : Paired related item other) : motive item other := by
  induction item generalizing other with
  | clause single =>
    cases paired with
    | clause alike => exact clause single _ alike
  | group relation items ih =>
    cases paired with
    | group each =>
      have both := (List.forall₂_and_left _ _).mpr ⟨ih, each⟩
      exact group relation items _ (both.imp fun _ _ pair => pair.1 pair.2)

theorem of_clauses (each : ∀ single ∈ item.clauses, related single single) :
    Paired related item item := by
  induction item with
  | clause single =>
    rw [clauses_clause] at each
    exact .clause (each single List.mem_cons_self)
  | group relation items ih =>
    rw [clauses_group] at each
    apply Paired.group
    apply List.forall₂_same.mpr
    intro item listed
    apply ih item listed
    intro single among
    exact each single (List.mem_flatMap.mpr ⟨item, listed, among⟩)

theorem symm (symmetric : ∀ single other, related single other → related other single)
    (paired : Paired related item other) : Paired related other item := by
  refine induct ?clause ?group paired
  case clause =>
    intro single other alike
    exact .clause (symmetric single other alike)
  case group =>
    intro relation items others each
    exact .group each.flip

end Paired

/-! ### What they accept -/

variable {source target : TermSource} {items others : List Item}

theorem anyAccepts_mono
    (each : List.Forall₂ (fun item other => item.accepts source → other.accepts target)
      items others) : anyAccepts source items → anyAccepts target others := by
  induction each with
  | nil => exact id
  | cons first _ ih =>
    rw [anyAccepts, anyAccepts, Bool.or_eq_true, Bool.or_eq_true]
    exact Or.imp first ih

theorem allAccept_mono
    (each : List.Forall₂ (fun item other => item.accepts source → other.accepts target)
      items others) : allAccept source items → allAccept target others := by
  induction each with
  | nil => exact id
  | cons first _ ih =>
    rw [allAccept, allAccept, Bool.and_eq_true, Bool.and_eq_true]
    exact And.imp first ih

theorem Paired.accepts_mono {related : Clause → Clause → Prop} {item other : Item}
    (implied : ∀ single replaced, related single replaced →
      single.accepts source → replaced.accepts target)
    (paired : Paired related item other) : item.accepts source → other.accepts target := by
  refine Paired.induct ?clause ?group paired
  case clause =>
    intro single replaced alike
    rw [accepts_clause, accepts_clause]
    exact implied single replaced alike
  case group =>
    intro relation items others each
    -- Items under no relation are joined like those under `and`.
    by_cases alternatives : relation = some .or
    · subst alternatives
      rw [accepts, accepts]
      exact anyAccepts_mono each
    · rw [accepts, accepts]
      · exact allAccept_mono each
      · exact alternatives
      · exact alternatives

end Item

namespace Group

variable {group : Group} {source other : TermSource}

theorem accepts_mono
    (implied : ∀ single ∈ group.clauses, single.accepts source → single.accepts other) :
    group.accepts source → group.accepts other := by
  let related (single replaced : Clause) : Prop :=
    single = replaced ∧ (single.accepts source → single.accepts other)
  have paired : group.toItem.Paired related group.toItem :=
    .of_clauses fun single listed => ⟨rfl, implied single listed⟩
  apply paired.accepts_mono
  intro single replaced ⟨same, kept⟩
  exact same ▸ kept

theorem accepts_congr
    (agree : ∀ single ∈ group.clauses, single.accepts source = single.accepts other) :
    group.accepts source = group.accepts other := by
  apply Bool.eq_iff_iff.mpr
  constructor
  · apply accepts_mono
    intro single listed accepted
    rwa [← agree single listed]
  · apply accepts_mono
    intro single listed accepted
    rwa [agree single listed]

/-- A group is accepted by its clauses alone. Where every clause that accepts one source of terms
accepts another, so does the group, and where the clauses agree on the two, the group does. So no
query with the group tells records apart that are of its type and agree on the clauses. -/
theorem clauses_decide_acceptance (group : Group) :
    (∀ source other : TermSource,
      (∀ single ∈ group.clauses, single.accepts source → single.accepts other) →
        group.accepts source → group.accepts other) ∧
    (∀ source other : TermSource,
      (∀ single ∈ group.clauses, single.accepts source = single.accepts other) →
        group.accepts source = group.accepts other) ∧
    ∀ catalog : Catalog, ∀ content ∈ catalog.items.values, ∀ other ∈ catalog.items.values,
      (∀ single ∈ group.clauses,
        single.accepts (catalog.termsOf content) = single.accepts (catalog.termsOf other)) →
      ∀ postType otherType, (content.postType = postType ↔ other.postType = otherType) →
        (content ∈ catalog.query postType group ↔ other ∈ catalog.query otherType group) := by
  refine ⟨fun _ _ => accepts_mono, fun _ _ => accepts_congr, ?_⟩
  intro catalog content member other another agree postType otherType typed
  have same : group.accepts (catalog.termsOf content) = group.accepts (catalog.termsOf other) :=
    accepts_congr agree
  rw [Catalog.query, Catalog.query, List.mem_filter, List.mem_filter]
  simp only [member, another, typed, same, Bool.and_eq_true, decide_eq_true_eq]

/-- The lynx is no feline here, but black as the cat is, and the panther agrees with it on all
clauses, though not on all terms. -/
theorem clauses_decide_acceptance_of_lynx :
    let catalog := Catalog.empty.changes [.addTerm .category "feline", .addTerm .tag "black",
      .addTerm .tag "small", .addItem "post" "cat", .addItem "post" "lynx",
      .addItem "page" "panther", .assign 4 [1, 2], .assign 5 [2, 3], .assign 6 [2]]
    let cat : Content := ⟨4, "post", "cat", [1, 2]⟩
    let lynx : Content := ⟨5, "post", "lynx", [2, 3]⟩
    let panther : Content := ⟨6, "page", "panther", [2]⟩
    let black : Clause := ⟨.tag, .name, .one (.name "black"), .isIn⟩
    let feline : Clause := ⟨.category, .id, .one (.name " +1"), .isIn⟩
    let strange : Clause := ⟨.category, .name, .many [.name "canine"], .notIn⟩
    let group : Group := ⟨none, [.clause strange, .group (some .or)
      [.group (some .and) [.clause feline, .group (some .or) []], .clause black]]⟩
    (∀ single ∈ group.clauses,
        single.accepts (catalog.termsOf lynx) → single.accepts (catalog.termsOf cat)) ∧
      group.accepts (catalog.termsOf lynx) ∧ group.accepts (catalog.termsOf cat) ∧
      feline.accepts (catalog.termsOf lynx) ≠ feline.accepts (catalog.termsOf cat) ∧
      (∀ single ∈ group.clauses,
        single.accepts (catalog.termsOf lynx) = single.accepts (catalog.termsOf panther)) ∧
      group.accepts (catalog.termsOf lynx) = group.accepts (catalog.termsOf panther) ∧
      (lynx ∈ catalog.query "post" group ↔ panther ∈ catalog.query "page" group) := by
  intro catalog cat lynx panther black feline strange group
  have kept : ∀ single ∈ group.clauses,
      single.accepts (catalog.termsOf lynx) → single.accepts (catalog.termsOf cat) := by
    decide
  have agree : ∀ single ∈ group.clauses,
      single.accepts (catalog.termsOf lynx) = single.accepts (catalog.termsOf panther) := by
    decide
  have listed : lynx ∈ catalog.items.values ∧ panther ∈ catalog.items.values := by decide
  obtain ⟨mono, congr, selected⟩ := clauses_decide_acceptance group
  have accepted : group.accepts (catalog.termsOf lynx) := by decide
  exact ⟨kept, accepted, mono _ _ kept accepted, by decide, agree, congr _ _ agree,
    selected catalog lynx listed.1 panther listed.2 agree "post" "page" (by decide)⟩

end Group

end TaxonomyQuery
