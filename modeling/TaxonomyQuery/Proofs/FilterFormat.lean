import TaxonomyQuery.Filter.Format
import TaxonomyQuery.Proofs.FilterTree
import TaxonomyQuery.Proofs.RestoringDecoders
/-!
Filters as values. A filter is read alike from a text and from the value of that text, and what is
written of a filter is read back as that filter: what is left out is told from what is empty, and a
single value from a list of one.
-/

set_option autoImplicit false

namespace TaxonomyQuery

theorem OneOrMany.uniform_decoder {α : Type} {inner : Decoder α} (uniform : inner.Uniform) :
    Decoder.Uniform (OneOrMany.decoder inner) := by
  apply Decoder.uniform_untagged
  simp only [List.forall_mem_cons]
  exact ⟨uniform.map OneOrMany.one, (Decoder.uniform_list uniform).map OneOrMany.many, by simp⟩

theorem OperatorSet.regular_record {α : Type} {inner : Decoder α} (uniform : inner.Uniform) :
    (OperatorSet.record inner).Regular where
  closed := rfl
  uniform := by
    have several := Decoder.uniform_nullable (OneOrMany.uniform_decoder uniform)
    have single := Decoder.uniform_nullable uniform
    simp only [record, List.forall_mem_cons]
    exact ⟨several.map _, several.map _, single.map _, single.map _, single.map _, single.map _,
      by simp⟩
  independent := by
    simp only [record, List.pairwise_cons, List.forall_mem_cons, List.not_mem_nil, false_imp_iff,
      implies_true, and_true, List.Pairwise.nil]
    and_intros
    all_goals
      apply Field.independent_of_apart
      intros
      rfl

theorem FieldPredicate.regular_record : FieldPredicate.record.Regular where
  closed := rfl
  uniform := by
    have name := (OperatorSet.regular_record Decoder.uniform_string).uniform_decode
    have id := (OperatorSet.regular_record Decoder.uniform_int64).uniform_decode
    simp only [record, List.forall_mem_cons]
    exact ⟨(Decoder.uniform_nullable name).map _, (Decoder.uniform_nullable id).map _, by simp⟩
  independent := by
    simp only [record, List.pairwise_cons, List.forall_mem_cons, List.not_mem_nil, false_imp_iff,
      implies_true, and_true, List.Pairwise.nil]
    apply Field.independent_of_apart
    intros
    rfl

namespace Filter

theorem regular_record {child : Decoder Filter} (uniform : child.Uniform) :
    (record child).Regular where
  closed := rfl
  uniform := by
    have predicate := Decoder.uniform_nullable FieldPredicate.regular_record.uniform_decode
    have below := Decoder.uniform_nullable (Decoder.uniform_list uniform)
    simp only [record, List.forall_mem_cons]
    exact ⟨predicate.map _, predicate.map _, below.map _, below.map _, by simp⟩
  independent := by
    simp only [record, List.pairwise_cons, List.forall_mem_cons, List.not_mem_nil, false_imp_iff,
      implies_true, and_true, List.Pairwise.nil]
    and_intros
    all_goals
      apply Field.independent_of_apart
      intros
      rfl

theorem uniform_decoderWithin (levels : Nat) : (decoderWithin levels).Uniform := by
  induction levels with
  | zero => exact Decoder.uniform_error _
  | succ levels ih => exact (regular_record ih).uniform_decode

theorem uniform_decoder : decoder.Uniform :=
  Decoder.uniform_of_height uniform_decoderWithin

theorem ofJson_eq_ok_iff {json : Json} {filter : Filter} :
    ofJson json = .ok filter ↔ decoder.ofJson json = .ok filter :=
  Decoder.mapError_eq_ok_iff

theorem ofText_eq_ok_iff {text : List Char} {filter : Filter} :
    ofText text = .ok filter ↔
      ∃ json, Json.ofText? text = some json ∧ json.nesting ≤ Decoder.greatestNesting ∧
        json.DistinctNames ∧ ofJson json = .ok filter := by
  simp only [ofJson_eq_ok_iff, ← uniform_decoder.ofText_eq_ok_iff]
  exact Decoder.mapError_eq_ok_iff

end Filter

/-! ### Reading filters back -/

namespace OneOrMany

variable {α : Type} {inner : Decoder α} {write : α → Json}

theorem decoder_eq (inner : Decoder α) :
    decoder inner =
      Decoder.untagged "OneOrMany" (Decoder.either inner (Decoder.list inner) one many) := rfl

theorem restores (each : ∀ value, inner.Restores (write value) value)
    (apart : inner.Excludes (Decoder.list inner)) (values : OneOrMany α) :
    (OneOrMany.decoder inner).Restores (values.toJson write) values := by
  rw [decoder_eq]
  cases values with
  | one value => exact Decoder.restores_first apart (each value)
  | many values =>
    exact Decoder.restores_second apart (Decoder.restores_list fun value _ => each value)

theorem toJson_ne_null (notNull : ∀ value, write value ≠ .null) (values : OneOrMany α) :
    values.toJson write ≠ .null := by
  cases values with
  | one value => exact notNull value
  | many values => simp [toJson]

end OneOrMany

theorem OperatorSet.restores {α : Type} {inner : Decoder α} {write : α → Json}
    (each : ∀ value, inner.Restores (write value) value) (notNull : ∀ value, write value ≠ .null)
    (apart : inner.Excludes (Decoder.list inner)) (set : OperatorSet α) :
    (decoder inner).Restores (set.toJson write) set := by
  have single : ∀ value, (Decoder.nullable inner).Restores (write value) (some value) :=
    fun value => Decoder.restores_nullable (each value) (notNull value)
  have several : ∀ values : OneOrMany α, (Decoder.nullable (OneOrMany.decoder inner)).Restores
      (values.toJson write) (some values) := fun values =>
    Decoder.restores_nullable (OneOrMany.restores each apart values)
      (OneOrMany.toJson_ne_null notNull values)
  unfold Decoder.Restores toJson
  rw [Document.plain_object, decoder, Record.decode_object_eq_ok_iff]
  refine ⟨.value, set, rfl, ?_, rfl, rfl⟩
  rw [← List.append_nil (Json.optional "notEq" write set.notEqual)]
  simp only [List.append_assoc]
  -- One member after the other, each into a field that is still blank.
  refine Record.readMembers_optional [] rfl rfl (fun values _ => several values) rfl
    (by simp) ?_ _ (by simp)
  refine Record.readMembers_optional _ rfl rfl (fun values _ => several values) rfl (by simp) ?_
  refine Record.readMembers_optional _ rfl rfl (fun value _ => single value) rfl (by simp) ?_
  refine Record.readMembers_optional _ rfl rfl (fun value _ => single value) rfl (by simp) ?_
  refine Record.readMembers_optional _ rfl rfl (fun value _ => single value) rfl (by simp) ?_
  refine Record.readMembers_optional _ rfl rfl (fun value _ => single value) rfl (by simp) ?_
  intro seen _
  rfl

theorem FieldPredicate.restores (predicate : FieldPredicate) :
    FieldPredicate.decoder.Restores predicate.toJson predicate := by
  have names : ∀ set : OperatorSet String,
      (OperatorSet.decoder Decoder.string).Restores (set.toJson .string) set :=
    OperatorSet.restores Decoder.restores_string (by simp) (Decoder.string_excludes_list _)
  have ids : ∀ set : OperatorSet Int64,
      (OperatorSet.decoder Decoder.int64).Restores (set.toJson idJson) set :=
    OperatorSet.restores Decoder.restores_int64 (by simp [idJson, Json.integer])
      (Decoder.int64_excludes_list _)
  unfold Decoder.Restores toJson
  rw [Document.plain_object, decoder, Record.decode_object_eq_ok_iff]
  refine ⟨.value, predicate, rfl, ?_, rfl, rfl⟩
  rw [← List.append_nil (Json.optional "id" _ _)]
  refine Record.readMembers_optional [] rfl rfl
    (fun set _ => Decoder.restores_nullable (names set) (by simp [OperatorSet.toJson])) rfl
    (by simp) ?_ _ (by simp)
  refine Record.readMembers_optional _ rfl rfl
    (fun set _ => Decoder.restores_nullable (ids set) (by simp [OperatorSet.toJson])) rfl
    (by simp) ?_
  intro seen _
  rfl

namespace Filter

theorem allToJson_eq_map (filters : List Filter) : allToJson filters = filters.map toJson := by
  induction filters with
  | nil => rfl
  | cons filter rest ih => rw [allToJson, ih, List.map_cons]

theorem belowToJson_eq_optional (name : String) (below : Option (List Filter)) :
    belowToJson name below =
      Json.optional name (fun filters => .array (filters.map toJson)) below := by
  cases below with
  | none => rfl
  | some filters => rw [belowToJson, allToJson_eq_map, Json.optional]

/-- A filter is read back as soon as all its levels may be read. -/
theorem decoderWithin_restores {levels : Nat} {filter : Filter} (within : filter.height < levels) :
    (decoderWithin levels).Restores filter.toJson filter := by
  induction filter generalizing levels with
  | level filter ih =>
    obtain ⟨left, rfl⟩ : ∃ left, levels = left + 1 := ⟨levels - 1, by omega⟩
    have predicate : ∀ written : FieldPredicate,
        (Decoder.nullable FieldPredicate.decoder).Restores written.toJson (some written) :=
      fun written => Decoder.restores_nullable written.restores (by simp [FieldPredicate.toJson])
    have below : ∀ filters : List Filter, (∀ child ∈ filters, child ∈ filter.children) →
        (Decoder.nullable (Decoder.list (decoderWithin left))).Restores
          (.array (filters.map toJson)) (some filters) := by
      intro filters among
      apply Decoder.restores_nullable _ (by simp)
      apply Decoder.restores_list
      intro child member
      have := height_lt_of_mem_children (among child member)
      exact ih child (among child member) (by omega)
    obtain ⟨tag, category, conjuncts, disjuncts⟩ := filter
    unfold Decoder.Restores
    rw [toJson, Document.plain_object, decoderWithin, Record.decode_object_eq_ok_iff]
    refine ⟨.value, _, rfl, ?_, rfl, rfl⟩
    rw [← List.append_nil (belowToJson "or" disjuncts)]
    simp only [List.append_assoc, belowToJson_eq_optional]
    refine Record.readMembers_optional [] rfl rfl (fun written _ => predicate written) rfl
      (by simp) ?_ _ (by simp)
    refine Record.readMembers_optional _ rfl rfl (fun written _ => predicate written) rfl
      (by simp) ?_
    refine Record.readMembers_optional _ rfl rfl (fun filters written => below filters ?_) rfl
      (by simp) ?_
    · simp_all [children]
    refine Record.readMembers_optional _ rfl rfl (fun filters written => below filters ?_) rfl
      (by simp) ?_
    · simp_all [children]
    intro seen _
    rfl

theorem heightBelow_le_of_height {name : String} {below : Option (List Filter)} {bound : Nat}
    (each : ∀ child ∈ below.getD [], ∀ bound,
      (Document.plain child.toJson).height ≤ bound → child.height < bound)
    (fits : ∀ member ∈ belowToJson name below, (Document.plain member.2).height ≤ bound) :
    heightBelow below ≤ bound := by
  cases below with
  | none => exact Nat.zero_le bound
  | some filters =>
    have written : (name, .array (filters.map toJson)) ∈ belowToJson name (some filters) := by
      simp [belowToJson_eq_optional, Json.optional]
    have inside := fits _ written
    rw [Document.plain_array, Document.height_array_le_iff] at inside
    obtain ⟨positive, items⟩ := inside
    have all : heightAll filters ≤ bound - 1 := by
      apply heightAll_le_iff.mpr
      intro child member
      have fitting := items _ (List.mem_map_of_mem (List.mem_map_of_mem member))
      exact Nat.le_of_lt (each child member (bound - 1) fitting)
    rw [heightBelow]
    omega

theorem height_lt_of_height_plain {filter : Filter} {bound : Nat}
    (fits : (Document.plain filter.toJson).height ≤ bound) : filter.height < bound := by
  induction filter generalizing bound with
  | level filter ih =>
    obtain ⟨tag, category, conjuncts, disjuncts⟩ := filter
    rw [toJson, Document.plain_object, Document.height_object_le_iff, List.forall_mem_map] at fits
    obtain ⟨positive, members⟩ := fits
    simp only [List.forall_mem_append] at members
    obtain ⟨⟨_, ofConjuncts⟩, ofDisjuncts⟩ := members
    have first : heightBelow conjuncts ≤ bound - 1 := heightBelow_le_of_height
      (fun child member _ => ih child (List.mem_append_left _ member)) ofConjuncts
    have second : heightBelow disjuncts ≤ bound - 1 := heightBelow_le_of_height
      (fun child member _ => ih child (List.mem_append_right _ member)) ofDisjuncts
    rw [height]
    omega

theorem restores (filter : Filter) : decoder.Restores filter.toJson filter :=
  decoderWithin_restores (height_lt_of_height_plain (Nat.le_refl _))

end Filter

end TaxonomyQuery
