import Mathlib
import TaxonomyQuery.Proofs.FilterFormat
import TaxonomyQuery.Proofs.Spacing
/-!
Which texts are accepted as filters. A text is, exactly if it holds a value that is, which is not
nested too deep and names no member twice. So neither the order of members nor the white space
between tokens makes a difference.
-/

set_option autoImplicit false

namespace TaxonomyQuery.Filter

/-- Values that differ in the order of members only are read as the same filter. -/
theorem ofText_of_rearranged {text other : List Char} {value another : Json} {filter : Filter}
    (holds : Json.ofText? text = some value) (found : Json.ofText? other = some another)
    (same : value.Rearranged another) (accepted : ofText text = .ok filter) :
    ofText other = .ok filter := by
  obtain ⟨json, again, within, distinct, read⟩ := ofText_eq_ok_iff.mp accepted
  obtain rfl := Option.some.inj (holds.symm.trans again)
  refine ofText_eq_ok_iff.mpr ⟨another, found, (same.nesting_le_iff).mp within,
    same.distinctNames_iff.mp distinct, ?_⟩
  rw [ofJson_eq_ok_iff, Decoder.ofJson] at read ⊢
  rwa [← Document.ofJson_eq_of_rearranged same distinct]

/-- A text is read as a filter exactly if it holds a value that is read as that filter, is not
nested too deep and names no member twice. Texts whose values differ in the order of members only,
at any depth, are read alike, and so are texts that differ in the white space between tokens only. -/
theorem ofText_agrees_with_ofJson (filter : Filter) :
    (∀ text, ofText text = .ok filter ↔
      ∃ value, Json.ofText? text = some value ∧ value.nesting ≤ Decoder.greatestNesting ∧
        value.DistinctNames ∧ ofJson value = .ok filter) ∧
      (∀ text other value another, Json.ofText? text = some value →
        Json.ofText? other = some another → value.Rearranged another →
          (ofText text = .ok filter ↔ ofText other = .ok filter)) ∧
      ∀ text other, tokens text = tokens other →
        (ofText text = .ok filter ↔ ofText other = .ok filter) := by
  refine ⟨fun text => ofText_eq_ok_iff, ?_, ?_⟩
  · intro text other value another holds found same
    exact ⟨ofText_of_rearranged holds found same, ofText_of_rearranged found holds same.symm⟩
  · intro text other same
    simp only [ofText_eq_ok_iff, Json.ofText?_eq_of_tokens_eq same]

/-- The members of two objects in another order, and white space between tokens. -/
theorem ofText_agrees_with_ofJson_of_rearranged :
    let text := "\x7b\"tag\":\x7b\"name\":\x7b\"in\":[\"a b\"]\x7d\x7d,\"or\":[\x7b\x7d]\x7d"
    let other := "\x7b\"or\":[\x7b\x7d],\"tag\":\x7b\"name\":\x7b\"in\":[\"a b\"]\x7d\x7d\x7d"
    let spaced := "\x7b \"or\" : [\x7b\n\x7d], \"tag\":\x7b\"name\":\x7b\"in\":[ \"a b\"]\x7d\x7d\x7d "
    let tag : String × Json :=
      ("tag", .object [("name", .object [("in", .array [.string "a b"])])])
    let below : String × Json := ("or", .array [.object []])
    let filter : Filter :=
      { tag := some { name := some { isIn := some (.many ["a b"]) } }, disjuncts := some [{}] }
    Json.ofText? text.toList = some (.object [tag, below]) ∧
      Json.ofText? other.toList = some (.object [below, tag]) ∧
      (Json.object [tag, below]).Rearranged (.object [below, tag]) ∧
      tokens other.toList = tokens spaced.toList ∧ ofText text.toList = .ok filter ∧
      ofText other.toList = .ok filter ∧ ofText spaced.toList = .ok filter := by
  intro text other spaced tag below filter
  have holds : Json.ofText? text.toList = some (.object [tag, below]) := by
    dsimp only [text, tag, below]
    cbv
  have found : Json.ofText? other.toList = some (.object [below, tag]) := by
    dsimp only [other, tag, below]
    cbv
  have same : (Json.object [tag, below]).Rearranged (.object [below, tag]) :=
    .order (.swap _ _ _)
  have equal : tokens other.toList = tokens spaced.toList := by
    dsimp only [other, spaced]
    cbv
  obtain ⟨accepted, rearranged, respaced⟩ := ofText_agrees_with_ofJson filter
  have distinct : (Json.object [tag, below]).DistinctNames := by
    simp [tag, below, Json.DistinctNames, Json.MembersDistinct, Json.ItemsDistinct]
  have value : ofJson (.object [tag, below]) = .ok filter := by
    dsimp only [tag, below, filter]
    cbv
  have read : ofText text.toList = .ok filter :=
    (accepted text.toList).mpr ⟨_, holds, by decide, distinct, value⟩
  have again := (rearranged _ _ _ _ holds found same).mp read
  exact ⟨holds, found, same, equal, read, again, (respaced _ _ equal).mp again⟩

end TaxonomyQuery.Filter
