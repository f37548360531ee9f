import Mathlib.Data.List.Pairwise
import TaxonomyQuery.Json.Record
import TaxonomyQuery.Proofs.UniformDecoding
/-!
Records of known fields. Where the fields do not get into each other's way, a record is read alike
from a text and from a value, in whatever order its members are listed.
-/

set_option autoImplicit false

namespace TaxonomyQuery

namespace Field

variable {draft : Type}

/-- It makes no difference which of the two fields is set first. -/
def Independent (first second : Field draft) : Prop :=
  ∀ {origin other : Origin} {document another : Document} {set put : draft → draft},
    first.read origin document = .ok set → second.read other another = .ok put →
      ∀ result, set (put result) = put (set result)

instance : Std.Symm (@Independent draft) where
  symm _ _ independent := fun read other result => (independent other read result).symm

/-- Fields are independent if the values they set are. -/
theorem independent_of_apart {β γ : Type} {name other : String} {optional late : Bool}
    {decoder : Decoder β} {another : Decoder γ} {set : β → draft → draft} {put : γ → draft → draft}
    (apart : ∀ value found result, set value (put found result) = put found (set value result)) :
    Independent ⟨name, optional, fun origin document => (decoder origin document).map set⟩
      ⟨other, late, fun origin document => (another origin document).map put⟩ := by
  intro _ _ _ _ first second read had result
  obtain ⟨value, _, rfl⟩ := Decoder.map_eq_ok_iff.mp read
  obtain ⟨found, _, rfl⟩ := Decoder.map_eq_ok_iff.mp had
  exact apart value found result

end Field

namespace Record

open Decoder

variable {draft α : Type}

structure Regular (record : Record draft α) : Prop where
  closed : record.isOpen = false
  uniform : ∀ field ∈ record.fields, Decoder.Uniform field.read
  independent : record.fields.Pairwise Field.Independent

section Members

variable {record : Record draft α} {origin : Origin} {seen : List String} {result finished : draft}

theorem readMembers_cons_eq_ok_iff (closed : record.isOpen = false) {member : Name × Document}
    {rest : List (Name × Document)} :
    record.readMembers origin seen (member :: rest) result = .ok finished ↔
      ∃ name field set, member.1 = .ok name ∧ record.fields.find? (·.name = name) = some field ∧
        name ∉ seen ∧ field.read origin member.2 = .ok set ∧
        record.readMembers origin (name :: seen) rest (set result) = .ok finished := by
  obtain ⟨_ | name, document⟩ := member
  · simp [readMembers]
  · rw [readMembers]
    cases known : record.fields.find? (·.name = name) with
    | none => simp [closed, known]
    | some field =>
      by_cases repeated : name ∈ seen
      · simp [repeated]
      · simp [repeated, known, bind_eq_ok_iff]

/-- Of the names that came before it matters only which they are. -/
theorem readMembers_congr_seen {seen other : List String}
    (same : ∀ name, name ∈ seen ↔ name ∈ other) (members : List (Name × Document))
    (result : draft) :
    record.readMembers origin seen members result =
      record.readMembers origin other members result := by
  induction members generalizing seen other result with
  | nil => rfl
  | cons member rest ih =>
    obtain ⟨_ | name, document⟩ := member
    · rfl
    · have repeated : seen.contains name = other.contains name := by
        simp only [List.contains_eq_mem, same]
      have further : ∀ later, later ∈ name :: seen ↔ later ∈ name :: other := by
        simp [same]
      simp only [readMembers, repeated, ih same, ih further]

theorem readMembers_eq_ok_of_perm (regular : record.Regular)
    {members others : List (Name × Document)} (same : members.Perm others)
    (read : record.readMembers origin seen members result = .ok finished) :
    record.readMembers origin seen others result = .ok finished := by
  induction same generalizing seen result with
  | nil => exact read
  | cons member _ ih =>
    obtain ⟨name, field, set, named, known, fresh, found, remaining⟩ :=
      (readMembers_cons_eq_ok_iff regular.closed).mp read
    exact (readMembers_cons_eq_ok_iff regular.closed).mpr
      ⟨name, field, set, named, known, fresh, found, ih remaining⟩
  | swap first second rest =>
    -- Two members change places: their fields differ, so they can be set in either order.
    obtain ⟨one, field, set, named, known, fresh, found, remaining⟩ :=
      (readMembers_cons_eq_ok_iff regular.closed).mp read
    obtain ⟨two, other, put, called, listed, absent, had, left⟩ :=
      (readMembers_cons_eq_ok_iff regular.closed).mp remaining
    obtain ⟨different, missing⟩ := not_or.mp (mt List.mem_cons.mpr absent)
    have oneName : field.name = one := by simpa using List.find?_some known
    have twoName : other.name = two := by simpa using List.find?_some listed
    have apart : field ≠ other := by
      rintro rfl
      exact different (twoName.symm.trans oneName)
    have either := regular.independent.forall (List.mem_of_find?_eq_some known)
      (List.mem_of_find?_eq_some listed) apart found had result
    have swapped : ∀ name, name ∈ two :: one :: seen ↔ name ∈ one :: two :: seen := by
      simp only [List.mem_cons]
      exact fun name => or_left_comm
    refine (readMembers_cons_eq_ok_iff regular.closed).mpr
      ⟨two, other, put, called, listed, missing, had, ?_⟩
    refine (readMembers_cons_eq_ok_iff regular.closed).mpr
      ⟨one, field, set, named, known, ?_, found, ?_⟩
    · exact fun inside => (List.mem_cons.mp inside).elim (fun equal => different equal.symm) fresh
    · rw [either, readMembers_congr_seen fun name => (swapped name).symm]
      exact left
  | trans _ _ ih another => exact another (ih read)

theorem readMembers_plain_eq_ok_iff (regular : record.Regular) {members : List (String × Json)} :
    record.readMembers origin seen (members.map Document.plainMember) result = .ok finished ↔
      (∀ member ∈ members, origin.Admits member.2) ∧
        (∀ member ∈ members, member.2.DistinctNames) ∧
        record.readMembers .value seen (members.map Document.readMember) result = .ok finished := by
  induction members generalizing seen result with
  | nil => simp [readMembers]
  | cons member rest ih =>
    simp only [List.map_cons, readMembers_cons_eq_ok_iff regular.closed, List.forall_mem_cons, ih]
    constructor
    · rintro ⟨name, field, set, named, known, fresh, found, fits, distinct, remaining⟩
      have uniform := regular.uniform field (List.mem_of_find?_eq_some known)
      obtain ⟨fitting, unique, read⟩ := uniform.plain_eq_ok_iff.mp found
      exact ⟨⟨fitting, fits⟩, ⟨unique, distinct⟩, name, field, set, named, known, fresh, read,
        remaining⟩
    · rintro ⟨⟨fitting, fits⟩, ⟨unique, distinct⟩, name, field, set, named, known, fresh, read,
        remaining⟩
      have uniform := regular.uniform field (List.mem_of_find?_eq_some known)
      exact ⟨name, field, set, named, known, fresh,
        uniform.plain_eq_ok_iff.mpr ⟨fitting, unique, read⟩, fits, distinct, remaining⟩

theorem plain_of_readMembers (regular : record.Regular) {room : Nat}
    {members : List (Name × Document)}
    (read : record.readMembers (.text room) seen members result = .ok finished) :
    ∃ listed : List (String × Json), members = listed.map Document.plainMember := by
  induction members generalizing seen result with
  | nil => exact ⟨[], rfl⟩
  | cons member rest ih =>
    obtain ⟨name, field, set, named, known, fresh, found, remaining⟩ :=
      (readMembers_cons_eq_ok_iff regular.closed).mp read
    obtain ⟨json, plain⟩ :=
      (regular.uniform field (List.mem_of_find?_eq_some known)).plain_of_text found
    obtain ⟨listed, rfl⟩ := ih remaining
    have here : member = Document.plainMember (name, json) := Prod.ext named plain
    exact ⟨(name, json) :: listed, by rw [List.map_cons, here]⟩

/-- Members that have been read have distinct names, and none that came before. -/
theorem names_of_readMembers (closed : record.isOpen = false) {members : List (String × Json)}
    (read : record.readMembers origin seen (members.map Document.readMember) result = .ok finished) :
    (members.map (·.1)).Nodup ∧ ∀ member ∈ members, member.1 ∉ seen := by
  induction members generalizing seen result with
  | nil => simp
  | cons member rest ih =>
    obtain ⟨name, field, set, named, known, fresh, found, remaining⟩ :=
      (readMembers_cons_eq_ok_iff closed).mp read
    obtain rfl : member.1 = name := Except.ok.inj named
    obtain ⟨distinct, later⟩ := ih remaining
    constructor
    · refine List.nodup_cons.mpr ⟨?_, distinct⟩
      intro inside
      obtain ⟨other, among, same⟩ := List.mem_map.mp inside
      exact later other among (same ▸ List.mem_cons_self)
    · refine List.forall_mem_cons.mpr ⟨fresh, ?_⟩
      intro other among earlier
      exact later other among (List.mem_cons_of_mem _ earlier)

end Members

section Items

variable {record : Record draft α} {origin : Origin} {length place : Nat} {cut : Option Halt}
  {fields : List (Field draft)} {result finished : draft}

theorem readItems_nil_eq_ok_iff :
    record.readItems origin length cut place fields [] result = .ok finished ↔
      cut = none ∧ (∀ field ∈ fields, field.optional) ∧ result = finished := by
  induction fields generalizing place with
  | nil => cases cut <;> simp [readItems]
  | cons field rest ih =>
    cases cut with
    | some halt => simp [readItems]
    | none => cases required : field.optional <;> simp [readItems, required, ih]

theorem readItems_cons_eq_ok_iff {document : Document} {rest : List Document} :
    record.readItems origin length cut place fields (document :: rest) result = .ok finished ↔
      ∃ field others set, fields = field :: others ∧ field.read origin document = .ok set ∧
        record.readItems origin length cut (place + 1) others rest (set result) = .ok finished := by
  cases fields with
  | nil => cases origin <;> simp [readItems]
  | cons field fields =>
    simp only [readItems, bind_eq_ok_iff]
    constructor
    · rintro ⟨set, read, remaining⟩
      exact ⟨field, fields, set, rfl, read, remaining⟩
    · rintro ⟨_, _, set, same, read, remaining⟩
      cases same
      exact ⟨set, read, remaining⟩

theorem readItems_plain_eq_ok_iff (uniform : ∀ field ∈ fields, Decoder.Uniform field.read)
    {items : List Json} :
    record.readItems origin length cut place fields (items.map .plain) result = .ok finished ↔
      (∀ item ∈ items, origin.Admits item) ∧ (∀ item ∈ items, item.DistinctNames) ∧
        record.readItems .value length cut place fields (items.map .ofJson) result =
          .ok finished := by
  induction items generalizing fields place result with
  | nil => simp [readItems_nil_eq_ok_iff]
  | cons item rest ih =>
    simp only [List.map_cons, readItems_cons_eq_ok_iff, List.forall_mem_cons]
    constructor
    · rintro ⟨field, others, set, rfl, found, remaining⟩
      obtain ⟨here, there⟩ := List.forall_mem_cons.mp uniform
      obtain ⟨fitting, unique, read⟩ := here.plain_eq_ok_iff.mp found
      obtain ⟨fits, distinct, left⟩ := (ih there).mp remaining
      exact ⟨⟨fitting, fits⟩, ⟨unique, distinct⟩, field, others, set, rfl, read, left⟩
    · rintro ⟨⟨fitting, fits⟩, ⟨unique, distinct⟩, field, others, set, rfl, read, left⟩
      obtain ⟨here, there⟩ := List.forall_mem_cons.mp uniform
      exact ⟨field, others, set, rfl, here.plain_eq_ok_iff.mpr ⟨fitting, unique, read⟩,
        (ih there).mpr ⟨fits, distinct, left⟩⟩

theorem plain_of_readItems (uniform : ∀ field ∈ fields, Decoder.Uniform field.read) {room : Nat}
    {documents : List Document}
    (read : record.readItems (.text room) length cut place fields documents result =
      .ok finished) :
    ∃ items : List Json, documents = items.map .plain ∧ cut = none := by
  induction documents generalizing fields place result with
  | nil => exact ⟨[], rfl, (readItems_nil_eq_ok_iff.mp read).1⟩
  | cons document rest ih =>
    obtain ⟨field, others, set, rfl, found, remaining⟩ := readItems_cons_eq_ok_iff.mp read
    obtain ⟨here, there⟩ := List.forall_mem_cons.mp uniform
    obtain ⟨json, rfl⟩ := here.plain_of_text found
    obtain ⟨items, rfl, complete⟩ := ih there remaining
    exact ⟨json :: items, rfl, complete⟩

end Items

section Decode

variable {record : Record draft α} {origin : Origin} {cut : Option Halt} {value : α}

theorem decode_array_eq_ok_iff {items : List Document} :
    record.decode origin (.array items cut) = .ok value ↔
      ∃ within finished, origin.enter = .ok within ∧
        record.readItems within items.length cut 0 record.fields items record.blank =
          .ok finished ∧
        record.finish finished = .ok value := by
  simp only [decode, bind_eq_ok_iff]
  constructor
  · rintro ⟨within, entered, finished, read, done⟩
    exact ⟨within, finished, entered, read, done⟩
  · rintro ⟨within, finished, entered, read, done⟩
    exact ⟨within, entered, finished, read, done⟩

theorem decode_object_eq_ok_iff {members : List (Name × Document)} :
    record.decode origin (.object members cut) = .ok value ↔
      ∃ within finished, origin.enter = .ok within ∧
        record.readMembers within [] members record.blank = .ok finished ∧ cut = none ∧
        record.finish finished = .ok value := by
  simp only [decode, bind_eq_ok_iff, ending_eq_ok_iff]
  constructor
  · rintro ⟨within, entered, finished, read, _, complete, done⟩
    exact ⟨within, finished, entered, read, complete, done⟩
  · rintro ⟨within, finished, entered, read, complete, done⟩
    exact ⟨within, entered, finished, read, (), complete, done⟩

theorem Regular.uniform_decode (regular : record.Regular) : Decoder.Uniform record.decode where
  plain_of_text {room document value} accepted := by
    cases document with
    | array items cut =>
      obtain ⟨within, finished, entered, read, _⟩ := decode_array_eq_ok_iff.mp accepted
      obtain ⟨left, rfl⟩ := Origin.eq_text_of_enter entered
      obtain ⟨listed, rfl, rfl⟩ := plain_of_readItems regular.uniform read
      exact ⟨.array listed, (Document.plain_array listed).symm⟩
    | object members cut =>
      obtain ⟨within, finished, entered, read, rfl, _⟩ := decode_object_eq_ok_iff.mp accepted
      obtain ⟨left, rfl⟩ := Origin.eq_text_of_enter entered
      obtain ⟨listed, rfl⟩ := plain_of_readMembers regular read
      exact ⟨.object listed, (Document.plain_object listed).symm⟩
    | _ => cases accepted
  plain_eq_ok_iff {origin json value} := by
    cases json with
    | array items =>
      simp only [Document.plain_array, Decoder.ofJson, Document.ofJson_array,
        decode_array_eq_ok_iff, List.length_map, Origin.admits_array, Json.distinctNames_array,
        readItems_plain_eq_ok_iff regular.uniform]
      constructor
      · rintro ⟨within, finished, entered, ⟨fits, distinct, read⟩, done⟩
        exact ⟨⟨within, entered, fits⟩, distinct, .value, finished, rfl, read, done⟩
      · rintro ⟨⟨within, entered, fits⟩, distinct, _, finished, entry, read, done⟩
        cases entry
        exact ⟨within, finished, entered, ⟨fits, distinct, read⟩, done⟩
    | object members =>
      simp only [Document.plain_object, Decoder.ofJson, decode_object_eq_ok_iff,
        Origin.admits_object, Json.distinctNames_object, readMembers_plain_eq_ok_iff regular]
      constructor
      · rintro ⟨within, finished, entered, ⟨fits, distinct, read⟩, complete, done⟩
        have names := (names_of_readMembers regular.closed read).1
        obtain ⟨listed, same, document⟩ := Document.ofJson_object_perm names
        refine ⟨⟨within, entered, fits⟩, ⟨names, distinct⟩, ?_⟩
        rw [document, decode_object_eq_ok_iff]
        exact ⟨.value, finished, rfl, readMembers_eq_ok_of_perm regular same.symm read, rfl, done⟩
      · rintro ⟨⟨within, entered, fits⟩, ⟨names, distinct⟩, read⟩
        obtain ⟨listed, same, document⟩ := Document.ofJson_object_perm names
        rw [document, decode_object_eq_ok_iff] at read
        obtain ⟨_, finished, entry, read, _, done⟩ := read
        cases entry
        exact ⟨within, finished, entered,
          ⟨fits, distinct, readMembers_eq_ok_of_perm regular same read⟩, trivial, done⟩
    | _ => simp [decode, Decoder.ofJson, Document.ofJson]

end Decode

end Record

end TaxonomyQuery
