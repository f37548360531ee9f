import TaxonomyQuery.Proofs.FilterFormat
import TaxonomyQuery.Proofs.RecordParts
/-!
The grammar of filters. Which values are written like a filter is said form by form, and a value is
read as a filter exactly if it is written like that filter; all others are refused as invalid input.
-/

set_option autoImplicit false

namespace TaxonomyQuery

namespace Json

variable {α : Type}

def IsText (json : Json) (text : String) : Prop := json = .string text

/-- A whole number of 64 bits with a sign; one that is written as a double is none. -/
def IsId (json : Json) (id : Int64) : Prop := json = .integer id.toInt

inductive IsList (meaning : Json → α → Prop) : Json → List α → Prop where
  | array {items : List Json} {values : List α} (each : List.Forall₂ meaning items values) :
      IsList meaning (.array items) values

inductive IsOneOrMany (meaning : Json → α → Prop) (json : Json) : OneOrMany α → Prop where
  | one {value : α} (single : meaning json value) : IsOneOrMany meaning json (.one value)
  | many {values : List α} (several : json.IsList meaning values) :
      IsOneOrMany meaning json (.many values)

inductive IsNullable (meaning : Json → α → Prop) : Json → Option α → Prop where
  | null : IsNullable meaning .null none
  | value {json : Json} {value : α} (means : meaning json value) :
      IsNullable meaning json (some value)

/-- What may be in a field: a value, or null or nothing where there is no value. -/
inductive Entry (meaning : Json → α → Prop) : Option Json → Option α → Prop where
  | absent : Entry meaning none none
  | present {json : Json} {value : Option α} (means : IsNullable meaning json value) :
      Entry meaning (some json) value

structure IsOperatorSet (meaning : Json → α → Prop) (json : Json) (set : OperatorSet α) : Prop where
  record : json.IsRecord ["in", "notIn", "like", "notLike", "eq", "notEq"]
  isIn : Entry (IsOneOrMany meaning) (json.part? 0 "in") set.isIn
  notIn : Entry (IsOneOrMany meaning) (json.part? 1 "notIn") set.notIn
  like : Entry meaning (json.part? 2 "like") set.like
  notLike : Entry meaning (json.part? 3 "notLike") set.notLike
  equal : Entry meaning (json.part? 4 "eq") set.equal
  notEqual : Entry meaning (json.part? 5 "notEq") set.notEqual

structure IsPredicate (json : Json) (predicate : FieldPredicate) : Prop where
  record : json.IsRecord ["name", "id"]
  name : Entry (IsOperatorSet IsText) (json.part? 0 "name") predicate.name
  id : Entry (IsOperatorSet IsId) (json.part? 1 "id") predicate.id

inductive IsFilter : Json → Filter → Prop where
  | level {json : Json} {filter : Filter} (record : json.IsRecord ["tag", "category", "and", "or"])
      (tag : Entry IsPredicate (json.part? 0 "tag") filter.tag)
      (category : Entry IsPredicate (json.part? 1 "category") filter.category)
      (conjuncts : Entry (IsList IsFilter) (json.part? 2 "and") filter.conjuncts)
      (disjuncts : Entry (IsList IsFilter) (json.part? 3 "or") filter.disjuncts) :
      IsFilter json filter

end Json

/-! ### Decoders by the meaning of values -/

namespace Decoder

variable {α : Type} {inner : Decoder α} {meaning : Json → α → Prop}

/-- The value is read as what it means, and refused where it means nothing. -/
def Reads (decoder : Decoder α) (meaning : Json → α → Prop) (json : Json) : Prop :=
  ∀ value, decoder.ofJson json = .ok value ↔ meaning json value

theorem reads_string (json : Json) : string.Reads Json.IsText json := by
  intro text
  cases json <;> simp [Decoder.ofJson, Document.ofJson, string, Json.IsText]

theorem reads_int64 (json : Json) : int64.Reads Json.IsId json := by
  intro id
  constructor
  · intro read
    obtain ⟨whole, within, rfl⟩ := map_eq_ok_iff.mp read
    unfold integer at within
    split at within
    · rename_i number held
      split at within
      · rename_i range
        obtain rfl := Except.ok.inj within
        have low : -2 ^ 63 ≤ number := range.1
        have high : number < 2 ^ 63 := Int.lt_of_le_sub_one range.2
        rw [Json.IsId, Int64.toInt_ofInt_of_le low high]
        cases json <;> simp_all [Document.ofJson, Json.integer]
      · cases within
    · cases within
  · rintro rfl
    exact (restores_int64 id).ofJson uniform_int64

theorem items_ofJson_eq_ok_iff {items : List Json}
    (each : ∀ item ∈ items, inner.Reads meaning item) {values : List α} :
    Decoder.items (inner .value) (items.map .ofJson) = .ok values ↔
      List.Forall₂ meaning items values := by
  induction items generalizing values with
  | nil => cases values <;> simp [Decoder.items]
  | cons item rest ih =>
    obtain ⟨first, others⟩ := List.forall_mem_cons.mp each
    have here : ∀ value, inner .value (.ofJson item) = .ok value ↔ meaning item value := first
    simp only [List.map_cons, Decoder.items, bind_eq_ok_iff, here, ih others]
    cases values with
    | nil => simp
    | cons value values => simp [List.forall₂_cons]

theorem reads_list {json : Json}
    (each : ∀ ⦃items⦄, json = .array items → ∀ item ∈ items, inner.Reads meaning item) :
    (list inner).Reads (Json.IsList meaning) json := by
  intro values
  cases json with
  | array items =>
    simp only [Decoder.ofJson, Document.ofJson_array, list_array_eq_ok_iff, Origin.enter_value,
      Except.ok.injEq, exists_eq_left', and_true, items_ofJson_eq_ok_iff (each rfl)]
    constructor
    · exact .array
    · rintro ⟨all⟩
      exact all
  | object members =>
    rw [Decoder.ofJson, Document.ofJson_object]
    constructor
    · intro read
      cases read
    · intro means
      cases means
  | _ =>
    constructor
    · intro read
      cases read
    · intro means
      cases means

theorem reads_oneOrMany (reads : ∀ json, inner.Reads meaning json)
    (apart : inner.Excludes (list inner)) (json : Json) :
    (OneOrMany.decoder inner).Reads (Json.IsOneOrMany meaning) json := by
  intro values
  have single : ∀ value, inner .value (.ofJson json) = .ok value ↔ meaning json value := reads json
  have several : ∀ values, list inner .value (.ofJson json) = .ok values ↔
      json.IsList meaning values := reads_list fun _ _ item _ => reads item
  rw [Decoder.ofJson, OneOrMany.decoder_eq, untagged_either_eq_ok_iff apart]
  simp only [unreadFault?, true_and, single, several]
  constructor
  · rintro (⟨value, means, rfl⟩ | ⟨listed, all, rfl⟩)
    · exact .one means
    · exact .many all
  · rintro (means | all)
    · exact .inl ⟨_, means, rfl⟩
    · exact .inr ⟨_, all, rfl⟩

theorem reads_nullable {json : Json} (reads : inner.Reads meaning json)
    (notNull : ∀ value, ¬ meaning .null value) :
    (nullable inner).Reads (Json.IsNullable meaning) json := by
  have given : ∀ value, (inner .value (.ofJson json)).map some = .ok value ↔
      ∃ found, meaning json found ∧ some found = value := by
    intro value
    rw [map_eq_ok_iff]
    exact exists_congr fun found => and_congr_left' (reads found)
  intro value
  by_cases isNull : json = .null
  · subst isNull
    constructor
    · intro read
      cases read
      exact .null
    · rintro (_ | means)
      · rfl
      · exact absurd means (notNull _)
  · have present : (nullable inner).ofJson json = (inner .value (.ofJson json)).map some := by
      cases json with
      | null => exact absurd rfl isNull
      | _ => simp [nullable, Decoder.ofJson, Document.ofJson]
    rw [present, given]
    constructor
    · rintro ⟨found, means, rfl⟩
      exact .value means
    · rintro (_ | means)
      · exact absurd rfl isNull
      · exact ⟨_, means, rfl⟩

end Decoder

/-- A field without an entry is left as it is, which is as if it were set to nothing. -/
theorem Record.readParts_nullable_eq_ok_iff {α draft : Type} {decoder : Decoder α}
    {meaning : Json → α → Prop} {json : Json} {place : Nat} {name : String}
    {set : Option α → draft → draft} {fields : List (Field draft)} {result finished : draft}
    (reads : ∀ part, json.part? place name = some part →
      (Decoder.nullable decoder).Reads (Json.IsNullable meaning) part)
    (unset : set none result = result) :
    readParts json place (.nullable name decoder set :: fields) result = .ok finished ↔
      ∃ value, Json.Entry meaning (json.part? place name) value ∧
        readParts json (place + 1) fields (set value result) = .ok finished := by
  simp only [readParts, Field.nullable, Field.defaulted]
  cases found : json.part? place name with
  | none =>
    constructor
    · intro read
      exact ⟨none, .absent, unset.symm ▸ read⟩
    · rintro ⟨_, ⟨⟩, read⟩
      exact unset ▸ read
  | some part =>
    have means : ∀ value, Decoder.nullable decoder .value (.ofJson part) = .ok value ↔
        Json.IsNullable meaning part value := reads part found
    simp only [Decoder.bind_eq_ok_iff, Decoder.map_eq_ok_iff, means]
    constructor
    · rintro ⟨_, ⟨value, entry, rfl⟩, read⟩
      exact ⟨value, .present entry, read⟩
    · rintro ⟨value, _ | entry, read⟩
      exact ⟨_, ⟨value, entry, rfl⟩, read⟩

open Record (readParts_nullable_eq_ok_iff)

/-! ### Filters -/

theorem OperatorSet.reads {α : Type} {inner : Decoder α} {meaning : Json → α → Prop}
    (uniform : inner.Uniform) (reads : ∀ json, inner.Reads meaning json)
    (notNull : ∀ value, ¬ meaning .null value)
    (apart : inner.Excludes (Decoder.list inner)) (json : Json) :
    (decoder inner).Reads (Json.IsOperatorSet meaning) json := by
  have single (part : Json) := Decoder.reads_nullable (reads part) notNull
  have several (part : Json) : (Decoder.nullable (OneOrMany.decoder inner)).Reads
      (Json.IsNullable (Json.IsOneOrMany meaning)) part := by
    apply Decoder.reads_nullable (Decoder.reads_oneOrMany reads apart part)
    rintro _ (one | many)
    · exact notNull _ one
    · cases many
  intro set
  rw [decoder, Record.ofJson_decode_eq_ok_iff (regular_record uniform)
    (by simp [record, Record.names, Field.nullable, Field.defaulted])
    (by simp [record, Field.nullable, Field.defaulted])]
  -- One field after the other, into a set in which it is still blank.
  constructor
  · rintro ⟨known, finished, read, done⟩
    cases done
    obtain ⟨_, isIn, read⟩ := (readParts_nullable_eq_ok_iff (fun _ _ => several _) rfl).mp read
    obtain ⟨_, notIn, read⟩ := (readParts_nullable_eq_ok_iff (fun _ _ => several _) rfl).mp read
    obtain ⟨_, like, read⟩ := (readParts_nullable_eq_ok_iff (fun _ _ => single _) rfl).mp read
    obtain ⟨_, notLike, read⟩ := (readParts_nullable_eq_ok_iff (fun _ _ => single _) rfl).mp read
    obtain ⟨_, equal, read⟩ := (readParts_nullable_eq_ok_iff (fun _ _ => single _) rfl).mp read
    obtain ⟨_, notEqual, read⟩ := (readParts_nullable_eq_ok_iff (fun _ _ => single _) rfl).mp read
    cases read
    exact ⟨known, isIn, notIn, like, notLike, equal, notEqual⟩
  · rintro ⟨known, isIn, notIn, like, notLike, equal, notEqual⟩
    refine ⟨known, set, ?_, rfl⟩
    refine (readParts_nullable_eq_ok_iff (fun _ _ => several _) rfl).mpr ⟨_, isIn, ?_⟩
    refine (readParts_nullable_eq_ok_iff (fun _ _ => several _) rfl).mpr ⟨_, notIn, ?_⟩
    refine (readParts_nullable_eq_ok_iff (fun _ _ => single _) rfl).mpr ⟨_, like, ?_⟩
    refine (readParts_nullable_eq_ok_iff (fun _ _ => single _) rfl).mpr ⟨_, notLike, ?_⟩
    refine (readParts_nullable_eq_ok_iff (fun _ _ => single _) rfl).mpr ⟨_, equal, ?_⟩
    refine (readParts_nullable_eq_ok_iff (fun _ _ => single _) rfl).mpr ⟨_, notEqual, ?_⟩
    rfl

theorem FieldPredicate.reads (json : Json) : decoder.Reads Json.IsPredicate json := by
  have names (part : Json) := Decoder.reads_nullable
    (OperatorSet.reads Decoder.uniform_string Decoder.reads_string nofun
      (Decoder.string_excludes_list _) part)
    fun _ means => means.record
  have ids (part : Json) := Decoder.reads_nullable
    (OperatorSet.reads Decoder.uniform_int64 Decoder.reads_int64 nofun
      (Decoder.int64_excludes_list _) part)
    fun _ means => means.record
  intro predicate
  rw [decoder, Record.ofJson_decode_eq_ok_iff regular_record
    (by simp [record, Record.names, Field.nullable, Field.defaulted])
    (by simp [record, Field.nullable, Field.defaulted])]
  constructor
  · rintro ⟨known, finished, read, done⟩
    cases done
    obtain ⟨_, name, read⟩ := (readParts_nullable_eq_ok_iff (fun _ _ => names _) rfl).mp read
    obtain ⟨_, id, read⟩ := (readParts_nullable_eq_ok_iff (fun _ _ => ids _) rfl).mp read
    cases read
    exact ⟨known, name, id⟩
  · rintro ⟨known, name, id⟩
    refine ⟨known, predicate, ?_, rfl⟩
    refine (readParts_nullable_eq_ok_iff (fun _ _ => names _) rfl).mpr ⟨_, name, ?_⟩
    refine (readParts_nullable_eq_ok_iff (fun _ _ => ids _) rfl).mpr ⟨_, id, ?_⟩
    rfl

namespace Filter

/-- The induction is on the levels that may be read: what is below a level is lower than it. -/
theorem decoderWithin_reads {levels : Nat} {json : Json}
    (fits : (Document.ofJson json).height ≤ levels) :
    (decoderWithin levels).Reads Json.IsFilter json := by
  induction levels generalizing json with
  | zero =>
    have := (Document.ofJson json).height_pos
    omega
  | succ levels ih =>
    have predicate (part : Json) := Decoder.reads_nullable (FieldPredicate.reads part)
      fun _ means => means.record
    have below {place : Nat} {name : String} (part : Json)
        (found : json.part? place name = some part) :
        (Decoder.nullable (Decoder.list (decoderWithin levels))).Reads
          (Json.IsNullable (Json.IsList Json.IsFilter)) part := by
      refine Decoder.reads_nullable (Decoder.reads_list ?_) nofun
      rintro items rfl item among
      have inside := Document.height_ofJson_item_lt among
      have outside := Document.height_ofJson_part?_lt found
      exact ih (by omega)
    -- Nested structures have no eta rule, so the filter has to be taken apart to be put together.
    rintro ⟨tagged, filed, all, any⟩
    rw [decoderWithin,
      Record.ofJson_decode_eq_ok_iff (regular_record (uniform_decoderWithin levels))
        (by simp [record, Record.names, Field.nullable, Field.defaulted])
        (by simp [record, Field.nullable, Field.defaulted])]
    constructor
    · rintro ⟨known, finished, read, done⟩
      cases done
      obtain ⟨_, tag, read⟩ := (readParts_nullable_eq_ok_iff (fun _ _ => predicate _) rfl).mp read
      obtain ⟨_, category, read⟩ :=
        (readParts_nullable_eq_ok_iff (fun _ _ => predicate _) rfl).mp read
      obtain ⟨_, conjuncts, read⟩ := (readParts_nullable_eq_ok_iff below rfl).mp read
      obtain ⟨_, disjuncts, read⟩ := (readParts_nullable_eq_ok_iff below rfl).mp read
      cases read
      exact .level known tag category conjuncts disjuncts
    · rintro ⟨known, tag, category, conjuncts, disjuncts⟩
      refine ⟨known, _, ?_, rfl⟩
      refine (readParts_nullable_eq_ok_iff (fun _ _ => predicate _) rfl).mpr ⟨_, tag, ?_⟩
      refine (readParts_nullable_eq_ok_iff (fun _ _ => predicate _) rfl).mpr ⟨_, category, ?_⟩
      refine (readParts_nullable_eq_ok_iff below rfl).mpr ⟨_, conjuncts, ?_⟩
      refine (readParts_nullable_eq_ok_iff below rfl).mpr ⟨_, disjuncts, ?_⟩
      rfl

/-- Whatever the value, it is read as a filter exactly if it is written like that filter, and where
it is written like none it is refused as invalid input. -/
theorem ofJson_accepts_exactly_filters (json : Json) :
    (∀ filter, ofJson json = .ok filter ↔ json.IsFilter filter) ∧
      ((∃ error, ofJson json = .error (.invalidInput error)) ↔
        ∀ filter, ¬ json.IsFilter filter) := by
  have read (filter : Filter) : ofJson json = .ok filter ↔ json.IsFilter filter :=
    ofJson_eq_ok_iff.trans (decoderWithin_reads (Nat.le_refl _) filter)
  refine ⟨read, ?_⟩
  simp only [← read]
  constructor
  · rintro ⟨error, refused⟩ filter accepted
    rw [refused] at accepted
    cases accepted
  · intro none
    cases outcome : decoder.ofJson json with
    | ok filter => exact absurd (ofJson_eq_ok_iff.mpr outcome) (none filter)
    | error error => exact ⟨error, by rw [ofJson, outcome]; rfl⟩

end Filter

end TaxonomyQuery
