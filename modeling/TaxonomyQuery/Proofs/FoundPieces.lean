import TaxonomyQuery.Proofs.FacetSums
import TaxonomyQuery.Proofs.LowercaseContext
import TaxonomyQuery.Proofs.Selection
/-!
Patterns that are pieces of a term's name. Pattern and name are put in lower case one by one, so a
piece is found unless one of its capital sigmas ends a word in the piece and not in the name, or the
other way round.
-/

set_option autoImplicit false

namespace TaxonomyQuery

/-- The filter that asks for a pattern in the names of a taxonomy and nothing else. -/
def Filter.like (taxonomy : Taxonomy) (pattern : String) : Filter :=
  ofPredicate { name := some { like := some pattern } } taxonomy

theorem Filter.holds_like (fits : PatternTest) (source : TermSource) (taxonomy : Taxonomy)
    (pattern : String) : (like taxonomy pattern).holds fits source = fits taxonomy pattern := by
  rw [holds_eq]
  cases taxonomy <;> simp [like, ofPredicate, predicatesHold, FieldPredicate.holds, OperatorSet.holds]

theorem Filter.joining?_like (taxonomy : Taxonomy) (pattern : String) :
    (like taxonomy pattern).joining? = none := by
  cases taxonomy <;> rfl

namespace Catalog

variable {catalog : Catalog}

theorem Sound.mem_query_like_iff (sound : catalog.Sound) {taxonomy : Taxonomy} {pattern : String}
    {limit : Nat} {group : Group}
    (compiled : (Filter.like taxonomy pattern).compile catalog.lookup limit = .ok group)
    {postType : String} {content : Content} :
    content ∈ catalog.query postType group ↔
      (content ∈ catalog.items.values ∧ content.postType = postType) ∧
        ∃ id ∈ content.terms, id ∈ catalog.lookup taxonomy pattern := by
  rw [mem_query_iff, sound.compiled_accepts_own compiled, Filter.holds_like, TermSource.nameTest,
    List.any_eq_true]
  simp only [Prod.exists, sound.mem_termsOf_iff, sound.mem_lookup_iff, and_assoc, exists_and_left]

theorem Sound.mem_lookup_of_mem (sound : catalog.Sound) {term : Term}
    (present : term ∈ catalog.terms.values) {pattern : String} :
    term.id ∈ catalog.lookup term.taxonomy pattern ↔ fitsPattern pattern term.name := by
  have found := sound.mem_terms_iff.mp present
  rw [sound.mem_lookup_iff]
  constructor
  · rintro ⟨name, same, fits⟩
    have named : term.name = name := congrArg Term.name (Option.some.inj (found.symm.trans same))
    exact named ▸ fits
  · exact fun fits => ⟨term.name, found, fits⟩

theorem fitsPattern_append_append (before piece rest : String) :
    fitsPattern piece (before ++ piece ++ rest) =
      Text.isSubstring (Text.lowercase piece.toList)
        (Text.lowercase (before.toList ++ piece.toList ++ rest.toList)) := by
  rw [fitsPattern, String.toList_append, String.toList_append]

/-- A piece of a term's name finds the term, and as a pattern every item with the term, if its
capital sigmas keep their forms. A piece finds the terms of all catalogs that it is a piece of
exactly if its sigmas are settled in itself. -/
theorem pieces_found_iff (piece : String) :
    (∀ catalog : Catalog, catalog.Reachable → ∀ term ∈ catalog.terms.values, ∀ before rest,
      term.name = before ++ piece ++ rest →
      Text.SigmasStay before.toList piece.toList rest.toList →
        term.id ∈ catalog.lookup term.taxonomy piece ∧
          ∀ content ∈ catalog.items.values, term.id ∈ content.terms → ∀ limit, ∃ group,
            (Filter.like term.taxonomy piece).compile catalog.lookup limit = .ok group ∧
              content ∈ catalog.query content.postType group) ∧
    ((∀ catalog : Catalog, catalog.Reachable → ∀ term ∈ catalog.terms.values, ∀ before rest,
      term.name = before ++ piece ++ rest → term.id ∈ catalog.lookup term.taxonomy piece) ↔
        Text.Settled piece.toList) := by
  have found {catalog : Catalog} (reachable : catalog.Reachable) {term : Term}
      (present : term ∈ catalog.terms.values) {before rest : String}
      (cut : term.name = before ++ piece ++ rest)
      (stay : Text.SigmasStay before.toList piece.toList rest.toList) :
      term.id ∈ catalog.lookup term.taxonomy piece := by
    rw [reachable.sound.mem_lookup_of_mem present, cut, fitsPattern_append_append]
    exact Text.isSubstring_of_sigmasStay stay
  refine ⟨?matched, ?everywhere, ?settled⟩
  case matched =>
    intro catalog reachable term present before rest cut stay
    have listed := found reachable present cut stay
    refine ⟨listed, fun content member assigned limit => ?_⟩
    have compiled := Filter.compile_of_joining? (Filter.joining?_like term.taxonomy piece)
      catalog.lookup limit
    exact ⟨_, compiled, (reachable.sound.mem_query_like_iff compiled).mpr
      ⟨⟨member, rfl⟩, term.id, assigned, listed⟩⟩
  case everywhere =>
    -- A catalog with one term is enough to put any text around the piece.
    intro everywhere
    apply Text.settled_of_isSubstring
    intro before rest
    let name := String.ofList before ++ piece ++ String.ofList rest
    have reachable : (empty.change (.addTerm .tag name)).Reachable := Reachable.empty.change _
    have present : ⟨empty.nextId, .tag, name⟩ ∈ (empty.change (.addTerm .tag name)).terms.values :=
      List.mem_singleton.mpr rfl
    have listed := everywhere _ reachable _ present _ _ rfl
    rw [reachable.sound.mem_lookup_of_mem present, fitsPattern_append_append] at listed
    simpa only [String.toList_ofList] using listed
  case settled =>
    intro settled catalog reachable term present before rest cut
    exact found reachable present cut (settled.sigmasStay _ _)

/-- The sigma is the last letter of a word, in the piece and in the name. -/
theorem pieces_found_iff_of_word :
    let catalog := empty.changes [.addTerm .tag "ΗΧΟΣ ΚΑΙ ΜΟΥΣΙΚΗ", .addItem "post" "concert",
      .assign 2 [1]]
    let filter := Filter.like .tag "ΗΧΟΣ"
    catalog.Reachable ∧ ⟨1, .tag, "ΗΧΟΣ ΚΑΙ ΜΟΥΣΙΚΗ"⟩ ∈ catalog.terms.values ∧
      "ΗΧΟΣ ΚΑΙ ΜΟΥΣΙΚΗ" = "" ++ "ΗΧΟΣ" ++ " ΚΑΙ ΜΟΥΣΙΚΗ" ∧
      Text.SigmasStay "".toList "ΗΧΟΣ".toList " ΚΑΙ ΜΟΥΣΙΚΗ".toList ∧
      1 ∈ catalog.lookup .tag "ΗΧΟΣ" ∧
      ∃ group, filter.compile catalog.lookup 0 = .ok group ∧
        ⟨2, "post", "concert", [1]⟩ ∈ catalog.query "post" group := by
  intro catalog filter
  have reachable : catalog.Reachable := Reachable.empty.changes _
  have present : ⟨1, .tag, "ΗΧΟΣ ΚΑΙ ΜΟΥΣΙΚΗ"⟩ ∈ catalog.terms.values := List.mem_singleton.mpr rfl
  have cut : "ΗΧΟΣ ΚΑΙ ΜΟΥΣΙΚΗ" = "" ++ "ΗΧΟΣ" ++ " ΚΑΙ ΜΟΥΣΙΚΗ" := by decide
  have stay : Text.SigmasStay "".toList "ΗΧΟΣ".toList " ΚΑΙ ΜΟΥΣΙΚΗ".toList :=
    Text.between_eq_lowercase_iff.mp (by decide +kernel)
  have member : ⟨2, "post", "concert", [1]⟩ ∈ catalog.items.values := List.mem_singleton.mpr rfl
  obtain ⟨listed, matched⟩ :=
    (pieces_found_iff "ΗΧΟΣ").1 catalog reachable _ present "" " ΚΑΙ ΜΟΥΣΙΚΗ" cut stay
  exact ⟨reachable, present, cut, stay, listed, matched _ member (List.mem_singleton.mpr rfl) 0⟩

/-- Alone the piece ends in a final sigma. -/
theorem inner_sigma_missed :
    let catalog := empty.changes [.addTerm .tag "ΜΟΥΣΙΚΗ"]
    catalog.Reachable ∧ ⟨1, .tag, "ΜΟΥΣΙΚΗ"⟩ ∈ catalog.terms.values ∧
      "ΜΟΥΣΙΚΗ" = "" ++ "ΜΟΥΣ" ++ "ΙΚΗ" ∧ 1 ∉ catalog.lookup .tag "ΜΟΥΣ" := by
  intro catalog
  have none : catalog.lookup .tag "ΜΟΥΣ" = [] := by decide +kernel
  exact ⟨Reachable.empty.changes _, List.mem_singleton.mpr rfl, by decide, by simp [none]⟩

end Catalog

end TaxonomyQuery
