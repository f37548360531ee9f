import TaxonomyQuery.Clause.Format
import TaxonomyQuery.Proofs.ClauseTree
import TaxonomyQuery.Proofs.RestoringDecoders
/-!
Groups as values. A group is read alike from a text and from the value of that text, and what is
written of a group is read back as that group: a clause is told from a group, a term from a list of
terms and an id from a name by their shapes alone.
-/

set_option autoImplicit false

namespace TaxonomyQuery

open Decoder (uniform_variant uniform_untagged uniform_list uniform_nullable)

theorem TermValue.uniform_decoder : TermValue.decoder.Uniform := by
  apply uniform_untagged
  simp only [List.forall_mem_cons]
  exact ⟨Decoder.uniform_int64.map _, Decoder.uniform_string.map _, by simp⟩

theorem Terms.uniform_decoder : Terms.decoder.Uniform := by
  apply uniform_untagged
  simp only [List.forall_mem_cons]
  exact ⟨TermValue.uniform_decoder.map _, (uniform_list TermValue.uniform_decoder).map _, by simp⟩

theorem Clause.regular_record : Clause.record.Regular where
  closed := rfl
  uniform := by
    simp only [record, List.forall_mem_cons]
    exact ⟨(uniform_variant _).map _, (uniform_variant _).map _, Terms.uniform_decoder.map _,
      (uniform_variant _).map _, by simp⟩
  independent := by
    simp only [record, List.pairwise_cons, List.forall_mem_cons, List.not_mem_nil, false_imp_iff,
      implies_true, and_true, List.Pairwise.nil]
    and_intros
    all_goals
      apply Field.independent_of_apart
      intros
      rfl

theorem Group.regular_record {item : Decoder Item} (uniform : item.Uniform) :
    (Group.record item).Regular where
  closed := rfl
  uniform := by
    simp only [record, List.forall_mem_cons]
    exact ⟨(uniform_nullable (uniform_variant _)).map _, (uniform_list uniform).map _, by simp⟩
  independent := by
    simp only [record, List.pairwise_cons, List.forall_mem_cons, List.not_mem_nil, false_imp_iff,
      implies_true, and_true, List.Pairwise.nil]
    apply Field.independent_of_apart
    intros
    rfl

theorem Item.uniform_decoderWithin (levels : Nat) : (Item.decoderWithin levels).Uniform := by
  induction levels with
  | zero => exact Decoder.uniform_error _
  | succ levels ih =>
    apply uniform_untagged
    simp only [List.forall_mem_cons]
    exact ⟨Clause.regular_record.uniform_decode.map _,
      (Group.regular_record ih).uniform_decode.map _, by simp⟩

theorem Item.uniform_decoder : Item.decoder.Uniform :=
  Decoder.uniform_of_height uniform_decoderWithin

theorem Group.uniform_decoder : Group.decoder.Uniform :=
  Decoder.uniform_of_height fun levels =>
    (Group.regular_record (Item.uniform_decoderWithin levels)).uniform_decode

/-! ### Types that exclude one another -/

namespace TermValue

theorem decoder_eq :
    decoder = Decoder.untagged "TermValue" (Decoder.either Decoder.int64 Decoder.string id name) :=
  rfl

theorem decoder_excludes_list {α : Type} (inner : Decoder α) :
    decoder.Excludes (Decoder.list inner) := by
  rw [decoder_eq]
  apply Decoder.untagged_excludes
  simp only [Decoder.either, List.forall_mem_cons]
  exact ⟨(Decoder.int64_excludes_list inner).map id, (Decoder.string_excludes_list inner).map name,
    by simp⟩

end TermValue

theorem Terms.decoder_eq :
    decoder = Decoder.untagged "Terms"
      (Decoder.either TermValue.decoder (Decoder.list TermValue.decoder) one many) := rfl

/-- A clause has none of the fields of a group, and more of them. -/
theorem Clause.decoder_excludes_record (item : Decoder Item) :
    Clause.decoder.Excludes (Group.record item).decode := by
  have longer : (Group.record item).fields.length < record.fields.countP (!·.optional) := by
    simp [record, Group.record, Field.required]
  refine Record.decode_excludes rfl rfl ?_ nofun longer
  simp [record, Group.record, Record.names, Field.required, Field.nullable, Field.defaulted]

theorem Clause.decoder_excludes_group : Clause.decoder.Excludes Group.decoder :=
  fun _ _ _ _ _ read found => decoder_excludes_record _ read found

theorem Item.decoderWithin_succ (levels : Nat) :
    decoderWithin (levels + 1) = Decoder.untagged "ClauseItem"
      (Decoder.either Clause.decoder (Group.record (decoderWithin levels)).decode clause
        Group.toItem) := rfl

/-! ### Reading groups back -/

theorem Taxonomy.restores (taxonomy : Taxonomy) :
    Taxonomy.decoder.Restores taxonomy.toJson taxonomy := by
  cases taxonomy <;> exact Decoder.restores_variant rfl

theorem TermField.restores_column (field : TermField) :
    TermField.columnDecoder.Restores field.columnJson field := by
  cases field <;> exact Decoder.restores_variant rfl

theorem SetOperator.restores (operator : SetOperator) :
    SetOperator.decoder.Restores operator.toJson operator := by
  cases operator <;> exact Decoder.restores_variant rfl

theorem Relation.restores (relation : Relation) :
    Relation.decoder.Restores relation.toJson relation := by
  cases relation <;> exact Decoder.restores_variant rfl

/-- An id is a number and a name a string, whatever it says, so the two are told apart. -/
theorem TermValue.restores (value : TermValue) : TermValue.decoder.Restores value.toJson value := by
  rw [decoder_eq]
  cases value with
  | id value =>
    exact Decoder.restores_first Decoder.int64_excludes_string (Decoder.restores_int64 value)
  | name value =>
    exact Decoder.restores_second Decoder.int64_excludes_string (Decoder.restores_string value)

theorem Terms.restores (terms : Terms) : Terms.decoder.Restores terms.toJson terms := by
  rw [decoder_eq]
  have apart := TermValue.decoder_excludes_list TermValue.decoder
  cases terms with
  | one value => exact Decoder.restores_first apart value.restores
  | many values =>
    exact Decoder.restores_second apart (Decoder.restores_list fun value _ => value.restores)

theorem Clause.restores (clause : Clause) : Clause.decoder.Restores clause.toJson clause := by
  unfold Decoder.Restores toJson
  rw [Document.plain_object, decoder, Record.decode_object_eq_ok_iff]
  refine ⟨.value, ⟨some clause.taxonomy, some clause.field, some clause.terms,
    some clause.operator⟩, rfl, ?_, rfl, rfl⟩
  refine Record.readMembers_given [] rfl rfl clause.taxonomy.restores (by simp) ?_ _ (by simp)
  refine Record.readMembers_given _ rfl rfl clause.field.restores_column (by simp) ?_
  refine Record.readMembers_given _ rfl rfl clause.terms.restores (by simp) ?_
  refine Record.readMembers_given _ rfl rfl clause.operator.restores (by simp) ?_
  intro seen _
  rfl

namespace Item

theorem itemsToJson_eq_map (items : List Item) : itemsToJson items = items.map toJson := by
  induction items with
  | nil => rfl
  | cons item rest ih => rw [itemsToJson, ih, List.map_cons]

theorem toJson_group (relation : Option Relation) (items : List Item) :
    (group relation items).toJson =
      .object (Json.optional "relation" Relation.toJson relation ++
        [("items", .array (items.map toJson))]) := by
  rw [toJson, itemsToJson_eq_map]

end Item

theorem Group.restores_record {item : Decoder Item} {group : Group}
    (each : ∀ entry ∈ group.items, item.Restores entry.toJson entry) :
    (Group.record item).decode.Restores group.toJson group := by
  obtain ⟨relation, items⟩ := group
  unfold Decoder.Restores toJson toItem
  rw [Item.toJson_group, Document.plain_object, Record.decode_object_eq_ok_iff]
  refine ⟨.value, ⟨relation, items⟩, rfl, ?_, rfl, rfl⟩
  refine Record.readMembers_optional [] rfl rfl
    (fun relation _ => Decoder.restores_nullable relation.restores (by simp [Relation.toJson]))
    rfl (by simp) ?_ _ (by simp)
  refine Record.readMembers_given _ rfl rfl (Decoder.restores_list each) (by simp) ?_
  intro seen _
  rfl

namespace Item

/-- An item is read back as soon as all its groups may be read. -/
theorem decoderWithin_restores {levels : Nat} {item : Item} (within : item.depth < levels) :
    (decoderWithin levels).Restores item.toJson item := by
  induction item generalizing levels with
  | clause single =>
    obtain ⟨left, rfl⟩ : ∃ left, levels = left + 1 := ⟨levels - 1, by omega⟩
    rw [toJson, decoderWithin_succ]
    exact Decoder.restores_first (Clause.decoder_excludes_record _) single.restores
  | group relation items ih =>
    obtain ⟨left, rfl⟩ : ∃ left, levels = left + 1 := ⟨levels - 1, by omega⟩
    have below : ∀ entry ∈ items, (decoderWithin left).Restores entry.toJson entry := by
      intro entry member
      have := depth_group_le_iff.mp (Nat.le_of_lt_succ within)
      have := this.2 entry member
      exact ih entry member (by omega)
    have record : (Group.record (decoderWithin left)).decode.Restores
        (Group.toJson ⟨relation, items⟩) ⟨relation, items⟩ := Group.restores_record below
    rw [decoderWithin_succ]
    exact Decoder.restores_second (Clause.decoder_excludes_record _) record

theorem depth_lt_of_height_plain {item : Item} {bound : Nat}
    (fits : (Document.plain item.toJson).height ≤ bound) : item.depth < bound := by
  induction item generalizing bound with
  | clause single =>
    rw [toJson, Clause.toJson, Document.plain_object, Document.height_object_le_iff] at fits
    rw [depth]
    exact fits.1
  | group relation items ih =>
    rw [toJson_group, Document.plain_object, Document.height_object_le_iff,
      List.forall_mem_map] at fits
    obtain ⟨some, members⟩ := fits
    have listed := members ("items", .array (items.map toJson)) (by simp)
    rw [Document.plainMember, Document.plain_array, Document.height_array_le_iff,
      List.forall_mem_map, List.forall_mem_map] at listed
    obtain ⟨positive, below⟩ := listed
    have deep : (group relation items).depth ≤ bound - 1 :=
      depth_group_le_iff.mpr ⟨positive, fun item member =>
        Nat.le_of_lt (ih item member (below item member))⟩
    omega

theorem restores (item : Item) : decoder.Restores item.toJson item :=
  decoderWithin_restores (depth_lt_of_height_plain (Nat.le_refl _))

end Item

theorem Group.restores (group : Group) : Group.decoder.Restores group.toJson group := by
  -- The levels are settled first, as the decoder takes them from the document.
  change (record (Item.decoderWithin (Document.plain group.toJson).height)).decode.Restores _ _
  apply Group.restores_record
  intro item member
  have within : group.toItem.depth < (Document.plain group.toJson).height :=
    Item.depth_lt_of_height_plain (Nat.le_refl _)
  have below := (Item.depth_group_le_iff.mp (Nat.le_refl group.toItem.depth)).2 item member
  exact Item.decoderWithin_restores (by omega)

end TaxonomyQuery
