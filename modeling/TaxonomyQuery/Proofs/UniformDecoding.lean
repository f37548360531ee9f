import TaxonomyQuery.Json.Decoder
import TaxonomyQuery.Proofs.PlainDocument
/-!
Decoders that make no difference between a text and the value it holds. What such a decoder accepts
in a text has no faults, is not nested too deep and names no member twice, and is what the decoder
accepts of the value; so it does not matter in which order the members are listed.
-/

set_option autoImplicit false

namespace TaxonomyQuery

/-- There is room for the arrays and objects of the value inside one another. -/
def Origin.Admits : Origin → Json → Prop
  | .text room, json => json.nesting ≤ room
  | .value, _ => True

namespace Origin

@[simp] theorem admits_text {room : Nat} {json : Json} :
    (Origin.text room).Admits json ↔ json.nesting ≤ room := Iff.rfl

@[simp] theorem admits_value {json : Json} : Origin.value.Admits json := trivial

theorem admits_array {origin : Origin} {items : List Json} :
    origin.Admits (.array items) ↔
      ∃ within, origin.enter = .ok within ∧ ∀ item ∈ items, within.Admits item := by
  cases origin with
  | text room =>
    rw [admits_text, Json.nesting_array_le_iff]
    cases room <;> simp [enter]
  | value => simp [enter]

theorem admits_object {origin : Origin} {members : List (String × Json)} :
    origin.Admits (.object members) ↔
      ∃ within, origin.enter = .ok within ∧ ∀ member ∈ members, within.Admits member.2 := by
  cases origin with
  | text room =>
    rw [admits_text, Json.nesting_object_le_iff]
    cases room <;> simp [enter]
  | value => simp [enter]

@[simp] theorem enter_value : Origin.value.enter = .ok .value := rfl

/-- What is inside a text is text. -/
theorem eq_text_of_enter {room : Nat} {within : Origin}
    (entered : (Origin.text room).enter = .ok within) : ∃ left, within = .text left := by
  cases room with
  | zero => cases entered
  | succ left => exact ⟨left, (Except.ok.inj entered).symm⟩

end Origin

/-- Behind the document there is nothing but white space. -/
def Reading.EndsText (reading : Reading) : Prop :=
  ∃ rest, reading.after = .ok rest ∧ skipSpace rest = []

theorem Json.ofText?_eq_some_iff {text : List Char} {json : Json} :
    Json.ofText? text = some json ↔
      (readDocument text).document = .plain json ∧ (readDocument text).EndsText := by
  unfold Json.ofText? Reading.EndsText
  cases outcome : (readDocument text).after with
  | error halt => simp [outcome]
  | ok rest =>
    by_cases ended : skipSpace rest = [] <;> simp [outcome, ended, Document.toJson?_eq_some_iff]

namespace Decoder

variable {α β : Type}

theorem bind_eq_ok_iff {ε : Type} {first : Except ε α} {next : α → Except ε β} {result : β} :
    (first >>= next) = .ok result ↔ ∃ value, first = .ok value ∧ next value = .ok result := by
  cases first <;> simp [bind, Except.bind]

theorem map_eq_ok_iff {ε : Type} {first : Except ε α} {make : α → β} {result : β} :
    first.map make = .ok result ↔ ∃ value, first = .ok value ∧ make value = result := by
  cases first <;> simp [Except.map]

theorem mapError_eq_ok_iff {ε δ : Type} {first : Except ε α} {make : ε → δ} {result : α} :
    first.mapError make = .ok result ↔ first = .ok result := by
  cases first with
  | error fault => exact ⟨nofun, nofun⟩
  | ok value =>
    change Except.ok value = .ok result ↔ _
    rw [Except.ok.injEq, Except.ok.injEq]

theorem ending_eq_ok_iff {cut : Option Halt} {result : Unit} :
    ending cut = .ok result ↔ cut = none := by
  cases cut <;> simp [ending]

structure Uniform (decoder : Decoder α) : Prop where
  /-- A text is accepted only where it has no faults. -/
  plain_of_text : ∀ {room : Nat} {document : Document} {value : α},
    decoder (.text room) document = .ok value → ∃ json, document = .plain json
  /-- A document as it is listed is accepted like the value it holds. -/
  plain_eq_ok_iff : ∀ {origin : Origin} {json : Json} {value : α},
    decoder origin (.plain json) = .ok value ↔
      origin.Admits json ∧ json.DistinctNames ∧ decoder.ofJson json = .ok value

namespace Uniform

theorem text_eq_ok_iff {decoder : Decoder α} (uniform : decoder.Uniform) {room : Nat}
    {document : Document} {value : α} :
    decoder (.text room) document = .ok value ↔
      ∃ json, document = .plain json ∧ json.nesting ≤ room ∧ json.DistinctNames ∧
        decoder.ofJson json = .ok value := by
  constructor
  · intro accepted
    obtain ⟨json, rfl⟩ := uniform.plain_of_text accepted
    exact ⟨json, rfl, uniform.plain_eq_ok_iff.mp accepted⟩
  · rintro ⟨json, rfl, admitted⟩
    exact uniform.plain_eq_ok_iff.mpr admitted

theorem map {decoder : Decoder α} (uniform : decoder.Uniform) (make : α → β) :
    Uniform fun origin document => (decoder origin document).map make where
  plain_of_text accepted := by
    obtain ⟨value, read, _⟩ := map_eq_ok_iff.mp accepted
    exact uniform.plain_of_text read
  plain_eq_ok_iff := by
    intro origin json result
    simp only [Decoder.ofJson, map_eq_ok_iff, uniform.plain_eq_ok_iff]
    constructor
    · rintro ⟨value, ⟨room, distinct, read⟩, rfl⟩
      exact ⟨room, distinct, value, read, rfl⟩
    · rintro ⟨room, distinct, value, read, rfl⟩
      exact ⟨value, ⟨room, distinct, read⟩, rfl⟩

end Uniform

/-! ### Scalars -/

/-- A decoder of scalars need only treat a text like a value. -/
theorem Uniform.of_scalar {decoder : Decoder α}
    (alike : ∀ origin document, decoder origin document = decoder .value document)
    (array : ∀ items cut value, decoder .value (.array items cut) ≠ .ok value)
    (object : ∀ members cut value, decoder .value (.object members cut) ≠ .ok value)
    (flawed : ∀ type fault passing value, decoder .value (.flawed type fault passing) ≠ .ok value)
    (missing : ∀ halt value, decoder .value (.missing halt) ≠ .ok value) : Uniform decoder where
  plain_of_text {room document value} accepted := by
    rw [alike] at accepted
    cases document with
    | null => exact ⟨.null, Document.plain_null.symm⟩
    | boolean value => exact ⟨.boolean value, (Document.plain_boolean value).symm⟩
    | number value => exact ⟨.number value, (Document.plain_number value).symm⟩
    | string value => exact ⟨.string value, (Document.plain_string value).symm⟩
    | array => exact absurd accepted (array _ _ _)
    | object => exact absurd accepted (object _ _ _)
    | flawed => exact absurd accepted (flawed _ _ _ _)
    | missing => exact absurd accepted (missing _ _)
  plain_eq_ok_iff {origin json value} := by
    rw [alike, Decoder.ofJson]
    cases json with
    | array items => simp [array]
    | object members => simp [Document.ofJson_object, object]
    | _ => cases origin <;> simp [Document.ofJson, Json.DistinctNames, Json.nesting]

theorem uniform_string : Uniform string := by
  apply Uniform.of_scalar
  · intro origin document
    cases document <;> rfl
  all_goals
    intros
    intro accepted
    cases accepted

theorem uniform_integer (wanted : String) (least greatest : Int) :
    Uniform (integer wanted least greatest) := by
  apply Uniform.of_scalar
  · intro origin document
    cases document with
    | number number => cases number <;> rfl
    | _ => rfl
  all_goals
    intros
    intro accepted
    cases accepted

theorem uniform_int64 : Uniform int64 := (uniform_integer _ _ _).map Int64.ofInt

/-! ### Compound values -/

theorem uniform_nullable {inner : Decoder α} (uniform : inner.Uniform) :
    Uniform (nullable inner) where
  plain_of_text {room document value} accepted := by
    unfold nullable at accepted
    split at accepted
    · exact ⟨.null, Document.plain_null.symm⟩
    · cases accepted
    · obtain ⟨found, read, _⟩ := map_eq_ok_iff.mp accepted
      exact uniform.plain_of_text read
  plain_eq_ok_iff {origin json value} := by
    have inside : (inner origin (.plain json)).map some = .ok value ↔
        origin.Admits json ∧ json.DistinctNames ∧ (inner.ofJson json).map some = .ok value :=
      (uniform.map some).plain_eq_ok_iff
    cases json with
    | null =>
      cases origin <;>
        simp [nullable, Decoder.ofJson, Document.ofJson, Json.nesting, Json.DistinctNames]
    | object members => simpa [nullable, Decoder.ofJson, Document.ofJson_object] using inside
    | _ => simpa [nullable, Decoder.ofJson, Document.ofJson] using inside

theorem items_plain_eq_ok_iff {inner : Decoder α} (uniform : inner.Uniform) {within : Origin}
    {listed : List Json} {values : List α} :
    items (inner within) (listed.map .plain) = .ok values ↔
      (∀ item ∈ listed, within.Admits item) ∧ (∀ item ∈ listed, item.DistinctNames) ∧
        items (inner .value) (listed.map .ofJson) = .ok values := by
  induction listed generalizing values with
  | nil => simp [items]
  | cons item rest ih =>
    simp only [List.map_cons, items, bind_eq_ok_iff, uniform.plain_eq_ok_iff, ih,
      List.forall_mem_cons]
    constructor
    · rintro ⟨first, ⟨fits, distinct, read⟩, others, ⟨fitting, distinctRest, remaining⟩, same⟩
      exact ⟨⟨fits, fitting⟩, ⟨distinct, distinctRest⟩, first, read, others, remaining, same⟩
    · rintro ⟨⟨fits, fitting⟩, ⟨distinct, distinctRest⟩, first, read, others, remaining, same⟩
      exact ⟨first, ⟨fits, distinct, read⟩, others, ⟨fitting, distinctRest, remaining⟩, same⟩

theorem plain_of_items {inner : Decoder α} (uniform : inner.Uniform) {room : Nat}
    {documents : List Document} {values : List α}
    (accepted : items (inner (.text room)) documents = .ok values) :
    ∃ listed : List Json, documents = listed.map .plain := by
  induction documents generalizing values with
  | nil => exact ⟨[], rfl⟩
  | cons document rest ih =>
    simp only [items, bind_eq_ok_iff] at accepted
    obtain ⟨first, read, others, remaining, _⟩ := accepted
    obtain ⟨json, rfl⟩ := uniform.plain_of_text read
    obtain ⟨listed, rfl⟩ := ih remaining
    exact ⟨json :: listed, rfl⟩

theorem list_array_eq_ok_iff {inner : Decoder α} {origin : Origin} {documents : List Document}
    {cut : Option Halt} {values : List α} :
    list inner origin (.array documents cut) = .ok values ↔
      ∃ within, origin.enter = .ok within ∧ items (inner within) documents = .ok values ∧
        cut = none := by
  simp only [list, bind_eq_ok_iff, ending_eq_ok_iff]
  constructor
  · rintro ⟨within, entered, read, inside, _, complete, same⟩
    cases same
    exact ⟨within, entered, inside, complete⟩
  · rintro ⟨within, entered, inside, complete⟩
    exact ⟨within, entered, values, inside, (), complete, rfl⟩

theorem uniform_list {inner : Decoder α} (uniform : inner.Uniform) : Uniform (list inner) where
  plain_of_text {room document values} accepted := by
    cases document with
    | array documents cut =>
      obtain ⟨within, entered, read, rfl⟩ := list_array_eq_ok_iff.mp accepted
      obtain ⟨left, rfl⟩ := Origin.eq_text_of_enter entered
      obtain ⟨listed, rfl⟩ := plain_of_items uniform read
      exact ⟨.array listed, (Document.plain_array listed).symm⟩
    | _ => cases accepted
  plain_eq_ok_iff {origin json values} := by
    cases json with
    | array listed =>
      simp only [Document.plain_array, Decoder.ofJson, Document.ofJson_array,
        list_array_eq_ok_iff, Origin.admits_array, Json.distinctNames_array,
        items_plain_eq_ok_iff uniform, Origin.enter_value, Except.ok.injEq, exists_eq_left',
        and_true]
      constructor
      · rintro ⟨within, entered, fits, distinct, read⟩
        exact ⟨⟨within, entered, fits⟩, distinct, read⟩
      · rintro ⟨⟨within, entered, fits⟩, distinct, read⟩
        exact ⟨within, entered, fits, distinct, read⟩
    | object members => simp [list, Decoder.ofJson, Document.ofJson_object]
    | _ => simp [list, Decoder.ofJson, Document.ofJson]

theorem toOption_eq_some_iff {ε : Type} {outcome : Except ε α} {value : α} :
    outcome.toOption = some value ↔ outcome = .ok value := by
  cases outcome <;> simp [Except.toOption]

theorem Uniform.toOption_plain {decoder : Decoder α} (uniform : decoder.Uniform) {json : Json}
    (distinct : json.DistinctNames) :
    (decoder .value (.plain json)).toOption = (decoder .value (.ofJson json)).toOption := by
  apply Option.ext
  intro value
  rw [toOption_eq_some_iff, toOption_eq_some_iff, uniform.plain_eq_ok_iff]
  simp [distinct, Decoder.ofJson]

theorem firstOk_plain {choices : List (Decoder α)} (each : ∀ choice ∈ choices, choice.Uniform)
    {json : Json} (distinct : json.DistinctNames) :
    firstOk (choices.map (· .value)) (.plain json) =
      firstOk (choices.map (· .value)) (.ofJson json) := by
  unfold firstOk
  induction choices with
  | nil => rfl
  | cons choice rest ih =>
    obtain ⟨uniform, others⟩ := List.forall_mem_cons.mp each
    rw [List.map_cons, List.findSome?_cons, List.findSome?_cons, uniform.toOption_plain distinct,
      ih others]

theorem firstOk_eq_some {choices : List (Decoder α)} {document : Document} {value : α}
    (found : firstOk (choices.map (· .value)) document = some value) :
    ∃ choice ∈ choices, choice .value document = .ok value := by
  obtain ⟨read, among, accepted⟩ := List.exists_of_findSome?_eq_some found
  obtain ⟨choice, member, rfl⟩ := List.mem_map.mp among
  exact ⟨choice, member, toOption_eq_some_iff.mp accepted⟩

theorem untagged_eq_ok_iff {name : String} {choices : List (Decoder α)} {origin : Origin}
    {document : Document} {value : α} :
    untagged name choices origin document = .ok value ↔
      unreadFault? origin document = none ∧
        firstOk (choices.map (· .value)) document = some value := by
  unfold untagged
  cases unreadFault? origin document with
  | some fault => simp
  | none => cases firstOk (choices.map (· .value)) document <;> simp

theorem unreadFault?_plain_eq_none_iff {origin : Origin} {json : Json} :
    unreadFault? origin (.plain json) = none ↔ origin.Admits json := by
  cases origin with
  | text room => exact Document.fault?_plain_eq_none_iff
  | value => simp [unreadFault?]

theorem uniform_untagged (name : String) {choices : List (Decoder α)}
    (each : ∀ choice ∈ choices, choice.Uniform) : Uniform (untagged name choices) where
  plain_of_text accepted :=
    Document.exists_plain_of_fault?_eq_none (untagged_eq_ok_iff.mp accepted).1
  plain_eq_ok_iff {origin json value} := by
    rw [Decoder.ofJson, untagged_eq_ok_iff, untagged_eq_ok_iff, unreadFault?_plain_eq_none_iff]
    simp only [unreadFault?, true_and]
    constructor
    · rintro ⟨fits, found⟩
      obtain ⟨choice, member, accepted⟩ := firstOk_eq_some found
      have distinct := ((each choice member).plain_eq_ok_iff.mp accepted).2.1
      exact ⟨fits, distinct, firstOk_plain each distinct ▸ found⟩
    · rintro ⟨fits, distinct, found⟩
      exact ⟨fits, (firstOk_plain each distinct).trans found⟩

/-! ### Variants -/

theorem unit_eq_ok_iff {document : Document} {result : Unit} :
    unit document = .ok result ↔ document = .null := by
  cases document <;> simp [unit]

theorem variantEnding_eq_ok_iff {members : List (Name × Document)} {cut : Option Halt}
    {result : Unit} : variantEnding members cut = .ok result ↔ members = [] ∧ cut = none := by
  cases members <;> cases cut <;> simp [variantEnding]

theorem variantMember_eq_ok_iff {cases : List (String × α)} {members : List (Name × Document)}
    {cut : Option Halt} {value : α} :
    variantMember cases members cut = .ok value ↔
      ∃ name, members = [(.ok name, .null)] ∧ cut = none ∧ pick cases name = .ok value := by
  match members with
  | [] => cases cut <;> simp [variantMember]
  | (.error fault, document) :: rest => simp [variantMember]
  | (.ok name, document) :: rest =>
    simp only [variantMember, bind_eq_ok_iff, unit_eq_ok_iff, variantEnding_eq_ok_iff]
    constructor
    · rintro ⟨found, picked, _, rfl, _, ⟨rfl, rfl⟩, same⟩
      exact ⟨name, rfl, rfl, picked.trans same⟩
    · rintro ⟨_, same, rfl, picked⟩
      cases same
      exact ⟨value, picked, (), rfl, (), ⟨rfl, rfl⟩, rfl⟩

theorem variant_object_eq_ok_iff {cases : List (String × α)} {origin : Origin}
    {members : List (Name × Document)} {value : α} :
    variant cases origin (.object members none) = .ok value ↔
      (∃ within, origin.enter = .ok within) ∧
        ∃ name, members = [(.ok name, .null)] ∧ pick cases name = .ok value := by
  cases origin with
  | text room =>
    simp only [variant, bind_eq_ok_iff, variantMember_eq_ok_iff, true_and]
    exact exists_and_right
  | value =>
    match members with
    | [] => simp [variant]
    | [(.error fault, document)] => simp [variant]
    | [(.ok name, document)] =>
      simp only [variant, bind_eq_ok_iff, unit_eq_ok_iff, Origin.enter_value]
      constructor
      · rintro ⟨found, picked, _, rfl, same⟩
        exact ⟨⟨_, rfl⟩, name, rfl, picked.trans same⟩
      · rintro ⟨_, _, same, picked⟩
        cases same
        exact ⟨value, picked, (), rfl, rfl⟩
    | first :: second :: rest => simp [variant]

theorem plain_eq_null_iff {json : Json} : Document.plain json = .null ↔ json = .null := by
  cases json <;> simp

theorem ofJson_eq_null_iff {json : Json} : Document.ofJson json = .null ↔ json = .null := by
  cases json <;> simp [Document.ofJson]

theorem map_plainMember_eq_singleton_iff {members : List (String × Json)} {name : String} :
    members.map Document.plainMember = [(.ok name, .null)] ↔ members = [(name, .null)] := by
  simp [List.map_eq_singleton_iff, Document.plainMember, Prod.ext_iff, plain_eq_null_iff]

theorem map_readMember_eq_singleton_iff {members : List (String × Json)} {name : String} :
    members.map Document.readMember = [(.ok name, .null)] ↔ members = [(name, .null)] := by
  simp [List.map_eq_singleton_iff, Document.readMember, Prod.ext_iff, ofJson_eq_null_iff]

theorem variant_ofJson_object_eq_ok_iff {cases : List (String × α)}
    {members : List (String × Json)} {value : α} (distinct : (members.map (·.1)).Nodup) :
    variant cases .value (.ofJson (.object members)) = .ok value ↔
      ∃ name, members = [(name, .null)] ∧ pick cases name = .ok value := by
  obtain ⟨listed, same, read⟩ := Document.ofJson_object_perm distinct
  have single : ∀ name, listed = [(.ok name, .null)] ↔ members = [(name, .null)] := by
    intro name
    rw [← map_readMember_eq_singleton_iff]
    constructor
    · rintro rfl
      exact List.perm_singleton.mp same.symm
    · intro alone
      exact List.perm_singleton.mp (alone ▸ same)
  simp only [read, variant_object_eq_ok_iff, Origin.enter_value, Except.ok.injEq, exists_eq',
    true_and, single]

theorem uniform_variant (cases : List (String × α)) : Uniform (variant cases) where
  plain_of_text {room document value} accepted := by
    cases document with
    | string name => exact ⟨.string name, (Document.plain_string name).symm⟩
    | object members cut =>
      simp only [variant, bind_eq_ok_iff, variantMember_eq_ok_iff] at accepted
      obtain ⟨_, _, name, rfl, rfl, _⟩ := accepted
      exact ⟨.object [(name, .null)], by simp [Document.plainMember]⟩
    | flawed type => cases type <;> cases accepted
    | _ => cases accepted
  plain_eq_ok_iff {origin json value} := by
    cases json with
    | string name =>
      cases origin <;>
        simp [variant, Decoder.ofJson, Document.ofJson, Json.nesting, Json.DistinctNames]
    | object members =>
      simp only [Document.plain_object, variant_object_eq_ok_iff, Origin.admits_object,
        Json.distinctNames_object, Decoder.ofJson, map_plainMember_eq_singleton_iff]
      constructor
      · rintro ⟨⟨within, entered⟩, name, rfl, picked⟩
        refine ⟨⟨within, entered, ?_⟩, ⟨?_, ?_⟩, ?_⟩
        · cases within <;> simp [Json.nesting]
        · simp
        · simp [Json.DistinctNames]
        · exact (variant_ofJson_object_eq_ok_iff (by simp)).mpr ⟨name, rfl, picked⟩
      · rintro ⟨⟨within, entered, _⟩, ⟨distinct, _⟩, read⟩
        exact ⟨⟨within, entered⟩, (variant_ofJson_object_eq_ok_iff distinct).mp read⟩
    | _ => cases origin <;> simp [variant, Decoder.ofJson, Document.ofJson]

/-! ### Levels -/

/-- A decoder that accepts nothing. -/
theorem uniform_error (error : DecodeError) : Uniform fun _ _ => (.error error : Except _ α) where
  plain_of_text accepted := by cases accepted
  plain_eq_ok_iff := by simp [Decoder.ofJson]

/-- The levels that a decoder may go down can be told from the document. -/
theorem uniform_of_height {within : Nat → Decoder α} (each : ∀ levels, (within levels).Uniform) :
    Uniform fun origin document => within document.height origin document where
  plain_of_text accepted := (each _).plain_of_text accepted
  plain_eq_ok_iff {origin json value} := by
    rw [(each _).plain_eq_ok_iff]
    refine and_congr_right fun _ => and_congr_right fun distinct => ?_
    rw [Decoder.ofJson, Decoder.ofJson, Document.height_ofJson distinct]

/-! ### Whole texts -/

theorem ofText_eq_ok_iff {decoder : Decoder α} {text : List Char} {value : α} :
    decoder.ofText text = .ok value ↔
      decoder (.text greatestNesting) (readDocument text).document = .ok value ∧
        (readDocument text).EndsText := by
  simp only [ofText, bind_eq_ok_iff, Reading.EndsText]
  cases (readDocument text).after with
  | error halt => simp
  | ok rest => by_cases ended : skipSpace rest = [] <;> simp [ended]

/-- A text is accepted exactly if it holds a value which is accepted, is not nested too deep and
names no member twice. -/
theorem Uniform.ofText_eq_ok_iff {decoder : Decoder α} (uniform : decoder.Uniform)
    {text : List Char} {value : α} :
    decoder.ofText text = .ok value ↔
      ∃ json, Json.ofText? text = some json ∧ json.nesting ≤ greatestNesting ∧
        json.DistinctNames ∧ decoder.ofJson json = .ok value := by
  rw [Decoder.ofText_eq_ok_iff, uniform.text_eq_ok_iff]
  simp only [Json.ofText?_eq_some_iff]
  constructor
  · rintro ⟨⟨json, plain, accepted⟩, ended⟩
    exact ⟨json, ⟨plain, ended⟩, accepted⟩
  · rintro ⟨json, ⟨plain, ended⟩, accepted⟩
    exact ⟨⟨json, plain, accepted⟩, ended⟩

end Decoder

end TaxonomyQuery
