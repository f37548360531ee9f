import Mathlib
import TaxonomyQuery.Filter.Compile
import TaxonomyQuery.Proofs.DecodedNesting
import TaxonomyQuery.Proofs.FilterFormat
import TaxonomyQuery.Proofs.PrintedText
/-!
Filters as text. A filter is read back from what is printed of it, as long as that text is not
nested deeper than a text may be. It never is if the filter was read from a text, for no filter is
written deeper than a text that it was read from.
-/

set_option autoImplicit false

namespace TaxonomyQuery

/-! ### What is written is whole -/

theorem OneOrMany.whole_toJson {α : Type} {write : α → Json} (each : ∀ value, (write value).Whole)
    (values : OneOrMany α) : (values.toJson write).Whole := by
  cases values with
  | one value => exact each value
  | many values => exact .array (List.forall_mem_map.mpr fun value _ => each value)

theorem OperatorSet.whole_toJson {α : Type} {write : α → Json} (each : ∀ value, (write value).Whole)
    (set : OperatorSet α) : (set.toJson write).Whole := by
  have several : ∀ values : OneOrMany α, (values.toJson write).Whole := OneOrMany.whole_toJson each
  apply Json.NumbersAre.object
  simp only [List.forall_mem_append, Json.forall_mem_optional]
  simp only [several, each, implies_true, and_self]

theorem FieldPredicate.whole_toJson (predicate : FieldPredicate) : predicate.toJson.Whole := by
  apply Json.NumbersAre.object
  simp only [List.forall_mem_append, Json.forall_mem_optional]
  exact ⟨fun set _ => set.whole_toJson .string, fun set _ => set.whole_toJson Json.whole_int64⟩

theorem Filter.whole_toJson (filter : Filter) : filter.toJson.Whole := by
  induction filter with
  | level filter ih =>
    obtain ⟨tag, category, conjuncts, disjuncts⟩ := filter
    rw [toJson]
    apply Json.NumbersAre.object
    simp only [belowToJson_eq_optional, List.forall_mem_append, Json.forall_mem_optional]
    refine ⟨⟨⟨fun predicate _ => predicate.whole_toJson, fun predicate _ => predicate.whole_toJson⟩,
      fun filters listed => ?_⟩, fun filters listed => ?_⟩
    · refine .array (List.forall_mem_map.mpr fun child member => ih child ?_)
      simp_all [children]
    · refine .array (List.forall_mem_map.mpr fun child member => ih child ?_)
      simp_all [children]

/-! ### What has been read is written no deeper -/

theorem OneOrMany.neverDeepens {α : Type} {inner : Decoder α} {write : α → Json}
    (never : inner.NeverDeepens write) :
    (OneOrMany.decoder inner).NeverDeepens (OneOrMany.toJson write) := by
  intro origin json values read
  obtain ⟨choice, member, accepted⟩ :=
    Decoder.firstOk_eq_some (Decoder.untagged_eq_ok_iff.mp read).2
  simp only [List.mem_cons, List.not_mem_nil, or_false] at member
  rcases member with rfl | rfl
  · obtain ⟨value, found, rfl⟩ := Decoder.map_eq_ok_iff.mp accepted
    exact never found
  · obtain ⟨values, found, rfl⟩ := Decoder.map_eq_ok_iff.mp accepted
    exact Decoder.neverDeepens_list never found

theorem OperatorSet.nesting_toJson_le_iff {α : Type} {write : α → Json} {set : OperatorSet α}
    {bound : Nat} :
    (set.toJson write).nesting ≤ bound + 1 ↔
      (∀ values ∈ set.isIn, (values.toJson write).nesting ≤ bound) ∧
        (∀ values ∈ set.notIn, (values.toJson write).nesting ≤ bound) ∧
        (∀ value ∈ set.like, (write value).nesting ≤ bound) ∧
        (∀ value ∈ set.notLike, (write value).nesting ≤ bound) ∧
        (∀ value ∈ set.equal, (write value).nesting ≤ bound) ∧
        ∀ value ∈ set.notEqual, (write value).nesting ≤ bound := by
  simp only [toJson, Json.nesting_object_le_iff, List.forall_mem_append, Json.forall_mem_optional,
    Nat.succ_pos, true_and, Nat.add_sub_cancel, and_assoc]

theorem OperatorSet.neverDeepens {α : Type} {inner : Decoder α} {write : α → Json}
    (never : inner.NeverDeepens write) :
    (OperatorSet.decoder inner).NeverDeepens (OperatorSet.toJson write) := by
  intro origin json set read
  have several := OneOrMany.neverDeepens never
  have each : ∀ field ∈ (record inner).fields, field.Keeps (json.nesting - 1)
      fun set => (set.toJson write).nesting ≤ json.nesting - 1 + 1 := by
    simp only [record, List.forall_mem_cons]
    refine ⟨Field.keeps_nullable several ?_, Field.keeps_nullable several ?_,
      Field.keeps_nullable never ?_, Field.keeps_nullable never ?_, Field.keeps_nullable never ?_,
      Field.keeps_nullable never ?_, by simp⟩
    all_goals
      intro value result fits held
      rw [nesting_toJson_le_iff] at held ⊢
      simp_all only [and_self, implies_true]
  obtain ⟨positive, finished, held, done⟩ :=
    Record.decode_keeps _ rfl each (nesting_toJson_le_iff.mpr (by simp [record])) read
  obtain rfl := Except.ok.inj done
  rwa [Nat.sub_add_cancel positive] at held

theorem FieldPredicate.nesting_toJson_le_iff {predicate : FieldPredicate} {bound : Nat} :
    predicate.toJson.nesting ≤ bound + 1 ↔
      (∀ set ∈ predicate.name, (set.toJson .string).nesting ≤ bound) ∧
        ∀ set ∈ predicate.id, (set.toJson idJson).nesting ≤ bound := by
  simp only [toJson, Json.nesting_object_le_iff, List.forall_mem_append, Json.forall_mem_optional,
    Nat.succ_pos, true_and, Nat.add_sub_cancel]

theorem FieldPredicate.neverDeepens :
    FieldPredicate.decoder.NeverDeepens FieldPredicate.toJson := by
  intro origin json predicate read
  have names : (OperatorSet.decoder Decoder.string).NeverDeepens (OperatorSet.toJson .string) :=
    OperatorSet.neverDeepens (Decoder.neverDeepens_of_flat fun _ => rfl)
  have ids : (OperatorSet.decoder Decoder.int64).NeverDeepens (OperatorSet.toJson idJson) :=
    OperatorSet.neverDeepens (Decoder.neverDeepens_of_flat fun _ => rfl)
  have each : ∀ field ∈ record.fields, field.Keeps (json.nesting - 1)
      fun predicate => predicate.toJson.nesting ≤ json.nesting - 1 + 1 := by
    simp only [record, List.forall_mem_cons]
    refine ⟨Field.keeps_nullable names ?_, Field.keeps_nullable ids ?_, by simp⟩
    all_goals
      intro value result fits held
      rw [nesting_toJson_le_iff] at held ⊢
      simp_all only [and_self, implies_true]
  obtain ⟨positive, finished, held, done⟩ :=
    Record.decode_keeps _ rfl each (nesting_toJson_le_iff.mpr (by simp [record])) read
  obtain rfl := Except.ok.inj done
  rwa [Nat.sub_add_cancel positive] at held

namespace Filter

theorem nesting_toJson_le_iff {filter : Filter} {bound : Nat} :
    filter.toJson.nesting ≤ bound + 1 ↔
      (∀ predicate ∈ filter.tag, predicate.toJson.nesting ≤ bound) ∧
        (∀ predicate ∈ filter.category, predicate.toJson.nesting ≤ bound) ∧
        (∀ filters ∈ filter.conjuncts, (Json.array (filters.map toJson)).nesting ≤ bound) ∧
        ∀ filters ∈ filter.disjuncts, (Json.array (filters.map toJson)).nesting ≤ bound := by
  obtain ⟨tag, category, conjuncts, disjuncts⟩ := filter
  simp only [toJson, belowToJson_eq_optional, Json.nesting_object_le_iff, List.forall_mem_append,
    Json.forall_mem_optional, Nat.succ_pos, true_and, Nat.add_sub_cancel, and_assoc]

theorem neverDeepens_decoderWithin (levels : Nat) : (decoderWithin levels).NeverDeepens toJson := by
  induction levels with
  | zero =>
    intro _ _ _ read
    cases read
  | succ levels ih =>
    intro origin json filter read
    have below := Decoder.neverDeepens_list ih
    have each : ∀ field ∈ (record (decoderWithin levels)).fields, field.Keeps (json.nesting - 1)
        fun filter => filter.toJson.nesting ≤ json.nesting - 1 + 1 := by
      simp only [record, List.forall_mem_cons]
      refine ⟨Field.keeps_nullable FieldPredicate.neverDeepens ?_,
        Field.keeps_nullable FieldPredicate.neverDeepens ?_, Field.keeps_nullable below ?_,
        Field.keeps_nullable below ?_, by simp⟩
      all_goals
        intro value result fits held
        rw [nesting_toJson_le_iff] at held ⊢
        simp_all only [and_self, implies_true]
    obtain ⟨positive, finished, held, done⟩ :=
      Record.decode_keeps _ rfl each (nesting_toJson_le_iff.mpr (by simp [record])) read
    obtain rfl := Except.ok.inj done
    rwa [Nat.sub_add_cancel positive] at held

theorem neverDeepens : decoder.NeverDeepens toJson := fun _ _ _ read =>
  neverDeepens_decoderWithin _ read

/-! ### What is printed is read back -/

theorem ofJson_toJson (filter : Filter) : ofJson filter.toJson = .ok filter :=
  ofJson_eq_ok_iff.mpr (filter.restores.ofJson uniform_decoder)

theorem ofText_of_ofText? {text : List Char} {filter : Filter}
    (holds : Json.ofText? text = some filter.toJson)
    (within : filter.toJson.nesting ≤ Decoder.greatestNesting) : ofText text = .ok filter :=
  ofText_eq_ok_iff.mpr ⟨filter.toJson, holds, within,
    (uniform_decoder.plain_eq_ok_iff.mp filter.restores).2.1, ofJson_toJson filter⟩

theorem ofText_compact {filter : Filter}
    (within : filter.toJson.nesting ≤ Decoder.greatestNesting) :
    ofText filter.toJson.compact = .ok filter :=
  ofText_of_ofText? filter.whole_toJson.writtenAs_compact.ofText? within

theorem nesting_toJson_le_of_ofText {text : List Char} {filter : Filter}
    (accepted : ofText text = .ok filter) : filter.toJson.nesting ≤ Decoder.greatestNesting := by
  obtain ⟨json, _, within, distinct, read⟩ := ofText_eq_ok_iff.mp accepted
  have plain : decoder .value (.plain json) = .ok filter :=
    uniform_decoder.plain_eq_ok_iff.mpr ⟨trivial, distinct, ofJson_eq_ok_iff.mp read⟩
  exact Nat.le_trans (neverDeepens plain) within

/-- A filter is read back from the value it is written as, and from its text as long as that is not
nested too deep, which it never is for a filter that has been read from a text. What is read back is
compiled to the same group, or refused for the same reason. -/
theorem written_form_reads_back (filter : Filter) :
    ofJson filter.toJson = .ok filter ∧
      (filter.toJson.nesting ≤ Decoder.greatestNesting →
        ofText filter.toJson.compact = .ok filter) ∧
      (∀ text, ofText text = .ok filter → ofText filter.toJson.compact = .ok filter) ∧
      ∀ (lookup : TermLookup) (limit depth : Nat),
        (ofJson filter.toJson).bind (compileAt lookup limit depth) =
            filter.compileAt lookup limit depth ∧
          (filter.toJson.nesting ≤ Decoder.greatestNesting →
            (ofText filter.toJson.compact).bind (compileAt lookup limit depth) =
              filter.compileAt lookup limit depth) := by
  refine ⟨ofJson_toJson filter, ofText_compact, ?_, ?_⟩
  · intro text accepted
    exact ofText_compact (nesting_toJson_le_of_ofText accepted)
  · intro lookup limit depth
    constructor
    · rw [ofJson_toJson]
      rfl
    · intro within
      rw [ofText_compact within]
      rfl

/-- Relations without children, predicates and operators without conditions, and lists of no and of
one id beside a single one. -/
theorem written_form_reads_back_of_empty_parts :
    let filter : Filter :=
      { tag := some {}
        category := some
          { name := some {}, id := some { isIn := some (.one 5), notIn := some (.many []) } }
        conjuncts := some []
        disjuncts := some [{ tag := some { id := some { isIn := some (.many [-7]) } } }] }
    let text := "\x7b\"or\": [\x7b\"tag\": \x7b\"id\": \x7b\"in\": [-7]\x7d\x7d\x7d], " ++
      "\"and\": [], \"tag\": [null, null], \"category\": \x7b\"name\": [], " ++
      "\"id\": \x7b\"in\": 5, \"notIn\": []\x7d\x7d\x7d"
    filter.toJson.nesting ≤ Decoder.greatestNesting ∧ ofText text.toList = .ok filter ∧
      ofJson filter.toJson = .ok filter ∧ ofText filter.toJson.compact = .ok filter ∧
      (ofText filter.toJson.compact).bind (compileAt .none 3 0) = .error .conflictingRelations := by
  intro filter text
  have within : filter.toJson.nesting ≤ Decoder.greatestNesting := by decide
  have accepted : ofText text.toList = .ok filter := by
    dsimp only [text, filter]
    cbv
  obtain ⟨value, _, again, compiled⟩ := written_form_reads_back filter
  refine ⟨within, accepted, value, again text.toList accepted, ?_⟩
  exact ((compiled .none 3 0).2 within).trans rfl

end Filter

end TaxonomyQuery
