import Mathlib.Data.List.Nodup
import TaxonomyQuery.Proofs.UniformRecords
/-!
Records by their parts. An object has a part of a record under the name of its field, and an array
has it at the place of the field. Out of either, a record is read part by part in the order of its
fields, whatever the order of the members (`Record.ofJson_decode_eq_ok_iff`).
-/

set_option autoImplicit false

namespace TaxonomyQuery

namespace Json

/-- A record with fields of these names can be written like this, whatever is in the fields. -/
def IsRecord (names : List String) : Json → Prop
  | .object members => ∀ member ∈ members, member.1 ∈ names
  | .array items => items.length ≤ names.length
  | _ => False

/-- What a record has in the field of that place and name. -/
def part? (place : Nat) (name : String) : Json → Option Json
  | .object members => field? name (.object members)
  | .array items => items[place]?
  | _ => none

/-- The members of an object with these names, in the order of the names. -/
def inOrder (names : List String) (json : Json) : List (String × Json) :=
  names.filterMap fun name => (json.field? name).map (name, ·)

theorem exists_field?_eq_some {members : List (String × Json)} {member : String × Json}
    (among : member ∈ members) : ∃ json, field? member.1 (.object members) = some json := by
  have present : (members.reverse.find? (·.1 = member.1)).isSome :=
    List.find?_isSome.mpr ⟨member, List.mem_reverse.mpr among, by simp⟩
  obtain ⟨last, found⟩ := Option.isSome_iff_exists.mp present
  exact ⟨last.2, by rw [field?, found]; rfl⟩

theorem mem_of_field? {members : List (String × Json)} {name : String} {json : Json}
    (found : field? name (.object members) = some json) : (name, json) ∈ members := by
  obtain ⟨member, last, rfl⟩ := Option.map_eq_some_iff.mp found
  have named : member.1 = name := by simpa using List.find?_some last
  exact named ▸ List.mem_reverse.mp (List.mem_of_find?_eq_some last)

end Json

namespace Document

theorem mem_entries_ofJson_iff {members : List (String × Json)} {name : String}
    {document : Document} :
    (name, document) ∈
        (Table.ofList (members.map fun member => (member.1, ofJson member.2))).entries ↔
      (Json.field? name (.object members)).map ofJson = some document := by
  rw [Table.mem_entries_iff]
  simp only [Table.get?_ofList, Json.field?, ← List.map_reverse, List.find?_map, Option.map_map,
    Function.comp_def]

/-- No name is lost, only members that do not count. -/
theorem exists_mem_of_ofJson_object {members : List (String × Json)}
    {listed : List (Name × Document)} (document : ofJson (.object members) = .object listed none)
    {member : String × Json} (among : member ∈ members) :
    ∃ read ∈ listed, read.1 = .ok member.1 := by
  obtain ⟨json, found⟩ := Json.exists_field?_eq_some among
  rw [ofJson_object] at document
  cases document
  have counted := mem_entries_ofJson_iff.mpr (congrArg (Option.map ofJson) found)
  exact ⟨named (member.1, ofJson json), List.mem_map_of_mem counted, rfl⟩

/-- Where all names are known, the document has the members that count, in some order. -/
theorem ofJson_object_perm_inOrder {names : List String} {members : List (String × Json)}
    (distinct : names.Nodup) (known : ∀ member ∈ members, member.1 ∈ names) :
    ∃ listed : List (Name × Document),
      listed.Perm ((Json.inOrder names (.object members)).map readMember) ∧
        ofJson (.object members) = .object listed none := by
  refine ⟨_, ?_, ofJson_object members⟩
  have split : (Json.inOrder names (.object members)).map readMember =
      (names.filterMap fun name =>
        ((Json.field? name (.object members)).map ofJson).map (name, ·)).map named := by
    simp only [Json.inOrder, List.map_filterMap, Option.map_map]
    rfl
  rw [split]
  apply List.Perm.map
  have once : (names.filterMap fun name =>
      ((Json.field? name (.object members)).map ofJson).map (name, ·)).Nodup := by
    refine distinct.filterMap fun name other member first second => ?_
    obtain ⟨_, _, rfl⟩ := Option.map_eq_some_iff.mp first
    obtain ⟨_, _, same⟩ := Option.map_eq_some_iff.mp second
    exact (congrArg Prod.fst same).symm
  refine (List.perm_ext_iff_of_nodup (Table.nodup_entries _) once).mpr ?_
  rintro ⟨name, document⟩
  rw [mem_entries_ofJson_iff, List.mem_filterMap]
  constructor
  · intro found
    obtain ⟨json, last, _⟩ := Option.map_eq_some_iff.mp found
    exact ⟨name, known _ (Json.mem_of_field? last), by rw [found]; rfl⟩
  · rintro ⟨other, _, found⟩
    obtain ⟨_, last, same⟩ := Option.map_eq_some_iff.mp found
    cases same
    exact last

theorem height_pos (document : Document) : 0 < document.height := by
  cases document <;> simp [height]

theorem height_ofJson_item_lt {items : List Json} {item : Json} (among : item ∈ items) :
    (ofJson item).height < (ofJson (.array items)).height := by
  have whole := Nat.le_refl (ofJson (.array items)).height
  nth_rewrite 1 [ofJson_array] at whole
  obtain ⟨positive, inside⟩ := height_array_le_iff.mp whole
  have := inside _ (List.mem_map_of_mem among)
  omega

/-- A part is lower than the whole record. -/
theorem height_ofJson_part?_lt {json part : Json} {place : Nat} {name : String}
    (found : json.part? place name = some part) :
    (ofJson part).height < (ofJson json).height := by
  cases json with
  | array items => exact height_ofJson_item_lt (List.mem_of_getElem? found)
  | object members =>
    have counted := mem_entries_ofJson_iff.mpr (congrArg (Option.map ofJson) found)
    have whole := Nat.le_refl (ofJson (.object members)).height
    nth_rewrite 1 [ofJson_object] at whole
    obtain ⟨positive, inside⟩ := height_object_le_iff.mp whole
    have below : (ofJson part).height ≤ (ofJson (.object members)).height - 1 :=
      inside _ (List.mem_map_of_mem counted)
    omega
  | _ => cases found

end Document

theorem Field.find?_eq_some_of_mem {draft : Type} {fields : List (Field draft)}
    (distinct : (fields.map (·.name)).Nodup) {field : Field draft} (member : field ∈ fields) :
    fields.find? (·.name = field.name) = some field := by
  induction fields with
  | nil => cases member
  | cons first rest ih =>
    obtain ⟨single, others⟩ := List.nodup_cons.mp distinct
    rcases List.mem_cons.mp member with rfl | later
    · simp
    · have different : first.name ≠ field.name := fun same =>
        single (List.mem_map.mpr ⟨field, later, same.symm⟩)
      rw [List.find?_cons_of_neg (by simpa using different), ih others later]

namespace Record

open Decoder

variable {draft α : Type} {record : Record draft α} {fields : List (Field draft)}
  {members : List (String × Json)} {place : Nat} {result finished : draft} {value : α}

/-- Reads the parts into the fields, in the order of the fields. -/
def readParts (json : Json) : Nat → List (Field draft) → draft → Except DecodeError draft
  | _, [], result => .ok result
  | place, field :: fields, result =>
    match json.part? place field.name with
    | none => readParts json (place + 1) fields result
    | some part => do
      let set ← field.read .value (.ofJson part)
      readParts json (place + 1) fields (set result)

theorem readItems_eq_ok_iff_readParts {length : Nat} {items : List Json}
    (optional : ∀ field ∈ fields, field.optional) :
    record.readItems .value length none place fields ((items.drop place).map .ofJson) result =
        .ok finished ↔
      items.length ≤ place + fields.length ∧
        readParts (.array items) place fields result = .ok finished := by
  induction fields generalizing place result with
  | nil =>
    rcases Nat.lt_or_ge place items.length with within | past
    · rw [List.drop_eq_getElem_cons within, List.map_cons]
      simp [readItems_cons_eq_ok_iff, Nat.not_le_of_lt within]
    · simp [List.drop_eq_nil_of_le past, readItems, readParts, past]
  | cons field fields ih =>
    obtain ⟨here, there⟩ := List.forall_mem_cons.mp optional
    rw [readParts, Json.part?, List.length_cons, Nat.add_comm fields.length, ← Nat.add_assoc]
    rcases Nat.lt_or_ge place items.length with within | past
    · rw [List.drop_eq_getElem_cons within, List.getElem?_eq_getElem within, List.map_cons]
      simp only [readItems, bind_eq_ok_iff, ih there, and_left_comm, exists_and_left]
    · have beyond : items.drop place = items.drop (place + 1) := by
        rw [List.drop_eq_nil_of_le past, List.drop_eq_nil_of_le (Nat.le_add_right_of_le past)]
      rw [List.getElem?_eq_none past, ← ih there, ← beyond, List.drop_eq_nil_of_le past]
      simp [readItems, here]

/-- With the members in the order of the fields, every member meets the field at hand. -/
theorem readMembers_inOrder {seen : List String}
    (known : ∀ field ∈ fields, record.fields.find? (·.name = field.name) = some field)
    (distinct : (fields.map (·.name)).Nodup) (fresh : ∀ field ∈ fields, field.name ∉ seen) :
    record.readMembers .value seen
        ((Json.inOrder (fields.map (·.name)) (.object members)).map Document.readMember) result =
      readParts (.object members) place fields result := by
  induction fields generalizing seen place result with
  | nil => rfl
  | cons field fields ih =>
    obtain ⟨here, there⟩ := List.forall_mem_cons.mp known
    obtain ⟨single, others⟩ := List.nodup_cons.mp distinct
    obtain ⟨unseen, later⟩ := List.forall_mem_cons.mp fresh
    rw [readParts, Json.part?, Json.inOrder, List.map_cons]
    cases found : Json.field? field.name (.object members) with
    | none =>
      rw [List.filterMap_cons_none (by rw [found]; rfl)]
      exact ih there others later
    | some json =>
      rw [List.filterMap_cons_some (by rw [found]; rfl)]
      have afterwards : ∀ other ∈ fields, other.name ∉ field.name :: seen := by
        intro other member inside
        rcases List.mem_cons.mp inside with same | old
        · exact single (List.mem_map.mpr ⟨other, member, same⟩)
        · exact later other member old
      simp only [List.map_cons, Document.readMember, readMembers, here, List.contains_eq_mem,
        unseen, decide_false, Bool.false_eq_true, if_false]
      exact congrArg _ (funext fun set => ih there others afterwards)

theorem mem_names_of_readMembers (closed : record.isOpen = false) {origin : Origin}
    {seen : List String} {documents : List (Name × Document)}
    (read : record.readMembers origin seen documents result = .ok finished) :
    ∀ member ∈ documents, ∃ name ∈ record.names, member.1 = .ok name := by
  induction documents generalizing seen result with
  | nil => nofun
  | cons member rest ih =>
    obtain ⟨name, field, set, named, known, _, _, remaining⟩ :=
      (readMembers_cons_eq_ok_iff closed).mp read
    have same : field.name = name := by simpa using List.find?_some known
    have listed : name ∈ record.names :=
      List.mem_map.mpr ⟨field, List.mem_of_find?_eq_some known, same⟩
    exact List.forall_mem_cons.mpr ⟨⟨name, listed, named⟩, ih remaining⟩

theorem readMembers_eq_ok_iff_readParts (regular : record.Regular) (distinct : record.names.Nodup)
    {listed : List (Name × Document)}
    (document : Document.ofJson (.object members) = .object listed none) :
    record.readMembers .value [] listed result = .ok finished ↔
      (∀ member ∈ members, member.1 ∈ record.names) ∧
        readParts (.object members) 0 record.fields result = .ok finished := by
  have inOrder : record.readMembers .value []
      ((Json.inOrder record.names (.object members)).map Document.readMember) result =
        readParts (.object members) 0 record.fields result :=
    readMembers_inOrder (fun _ => Field.find?_eq_some_of_mem distinct) distinct
      fun _ _ => List.not_mem_nil
  rw [← inOrder]
  constructor
  · intro read
    have known : ∀ member ∈ members, member.1 ∈ record.names := by
      intro member among
      obtain ⟨entry, inside, named⟩ := Document.exists_mem_of_ofJson_object document among
      obtain ⟨name, listed, called⟩ := mem_names_of_readMembers regular.closed read entry inside
      exact Except.ok.inj (named.symm.trans called) ▸ listed
    obtain ⟨others, same, another⟩ := Document.ofJson_object_perm_inOrder distinct known
    cases document.symm.trans another
    exact ⟨known, readMembers_eq_ok_of_perm regular same read⟩
  · rintro ⟨known, read⟩
    obtain ⟨others, same, another⟩ := Document.ofJson_object_perm_inOrder distinct known
    cases document.symm.trans another
    exact readMembers_eq_ok_of_perm regular same.symm read

/-- A record is read from a value that has no other fields, as its parts are read one by one. -/
theorem ofJson_decode_eq_ok_iff (regular : record.Regular) (distinct : record.names.Nodup)
    (optional : ∀ field ∈ record.fields, field.optional) {json : Json} :
    Decoder.ofJson record.decode json = .ok value ↔
      json.IsRecord record.names ∧ ∃ finished,
        readParts json 0 record.fields record.blank = .ok finished ∧
          record.finish finished = .ok value := by
  cases json with
  | array items =>
    have read (finished : draft) :
        record.readItems .value items.length none 0 record.fields (items.map .ofJson) record.blank =
            .ok finished ↔
          items.length ≤ record.names.length ∧
            readParts (.array items) 0 record.fields record.blank = .ok finished := by
      rw [names, List.length_map, ← Nat.zero_add record.fields.length,
        ← readItems_eq_ok_iff_readParts optional, List.drop_zero]
    simp only [Decoder.ofJson, Document.ofJson_array, decode_array_eq_ok_iff, List.length_map,
      Origin.enter_value, Except.ok.injEq, exists_and_left, exists_eq_left', read, and_assoc,
      Json.IsRecord]
  | object members =>
    obtain ⟨listed, document⟩ :
        ∃ listed, Document.ofJson (.object members) = .object listed none :=
      ⟨_, Document.ofJson_object members⟩
    simp only [Decoder.ofJson, document, decode_object_eq_ok_iff, Origin.enter_value,
      Except.ok.injEq, exists_and_left, exists_eq_left', true_and,
      readMembers_eq_ok_iff_readParts regular distinct document, and_assoc, Json.IsRecord]
  | _ => simp [decode, Decoder.ofJson, Document.ofJson, Json.IsRecord]

end Record

end TaxonomyQuery
