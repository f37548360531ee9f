import TaxonomyQuery.Json.Document
import TaxonomyQuery.Proofs.JsonValue
/-!
Documents without faults. They are the values, with their members as listed; a document is one
exactly if there is no fault to be found in it within its nesting. The document of a value, which
has its members in the order of their names, differs from it in that order only.
-/

set_option autoImplicit false

namespace TaxonomyQuery.Document

mutual

/-- A value as a document in which every member stands where it is listed. -/
def plain : Json → Document
  | .null => .null
  | .boolean value => .boolean value
  | .number value => .number value
  | .string value => .string value
  | .array items => .array (plainItems items) none
  | .object members => .object (plainMembers members) none

def plainItems : List Json → List Document
  | [] => []
  | item :: rest => plain item :: plainItems rest

def plainMembers : List (String × Json) → List (Name × Document)
  | [] => []
  | (name, value) :: rest => (.ok name, plain value) :: plainMembers rest

end

/-- A member of a document without faults. -/
def plainMember (member : String × Json) : Name × Document := (.ok member.1, plain member.2)

theorem plainItems_eq_map (items : List Json) : plainItems items = items.map plain := by
  induction items with
  | nil => rfl
  | cons item rest ih => rw [plainItems, List.map_cons, ih]

theorem plainMembers_eq_map (members : List (String × Json)) :
    plainMembers members = members.map plainMember := by
  induction members with
  | nil => rfl
  | cons member rest ih => rw [plainMembers, List.map_cons, ih, plainMember]

@[simp] theorem plain_null : plain .null = .null := by rw [plain]

@[simp] theorem plain_boolean (value : Bool) : plain (.boolean value) = .boolean value := by
  rw [plain]

@[simp] theorem plain_number (value : Number) : plain (.number value) = .number value := by
  rw [plain]

@[simp] theorem plain_string (value : String) : plain (.string value) = .string value := by
  rw [plain]

@[simp] theorem plain_array (items : List Json) :
    plain (.array items) = .array (items.map plain) none := by
  rw [plain, plainItems_eq_map]

@[simp] theorem plain_object (members : List (String × Json)) :
    plain (.object members) = .object (members.map plainMember) none := by
  rw [plain, plainMembers_eq_map]

/-! ### Which documents are plain -/

theorem exists_eq_map {α β : Type} {make : α → β} {list : List β}
    (each : ∀ entry ∈ list, ∃ source, entry = make source) :
    ∃ sources : List α, list = sources.map make := by
  induction list with
  | nil => exact ⟨[], rfl⟩
  | cons entry rest ih =>
    obtain ⟨⟨source, rfl⟩, others⟩ := List.forall_mem_cons.mp each
    obtain ⟨sources, rfl⟩ := ih others
    exact ⟨source :: sources, rfl⟩

theorem itemsFault?_eq_none_iff {room : Nat} {items : List Document} :
    itemsFault? room items = none ↔ ∀ item ∈ items, item.fault? room = none := by
  induction items with
  | nil => simp [itemsFault?]
  | cons item rest ih => rw [itemsFault?, Option.or_eq_none_iff, ih, List.forall_mem_cons]

theorem membersFault?_eq_none_iff {room : Nat} {members : List (Name × Document)} :
    membersFault? room members = none ↔
      ∀ member ∈ members, nameFault? member.1 = none ∧ member.2.fault? room = none := by
  induction members with
  | nil => simp [membersFault?]
  | cons member rest ih =>
    rw [membersFault?, Option.or_eq_none_iff, Option.or_eq_none_iff, ih, List.forall_mem_cons]

theorem fault?_array_eq_none_iff {room : Nat} {items : List Document} {cut : Option Halt} :
    (array items cut).fault? room = none ↔
      0 < room ∧ (∀ item ∈ items, item.fault? (room - 1) = none) ∧ cut = none := by
  cases room with
  | zero => simp [fault?]
  | succ room => simp [fault?, itemsFault?_eq_none_iff]

theorem fault?_object_eq_none_iff {room : Nat} {members : List (Name × Document)}
    {cut : Option Halt} :
    (object members cut).fault? room = none ↔
      0 < room ∧
        (∀ member ∈ members, nameFault? member.1 = none ∧ member.2.fault? (room - 1) = none) ∧
        cut = none := by
  cases room with
  | zero => simp [fault?]
  | succ room => simp [fault?, membersFault?_eq_none_iff]

theorem fault?_plain_eq_none_iff {room : Nat} {value : Json} :
    (plain value).fault? room = none ↔ value.nesting ≤ room := by
  induction value generalizing room with
  | null | boolean | number | string => simp [fault?, Json.nesting]
  | array items ih =>
    rw [plain_array, fault?_array_eq_none_iff, Json.nesting_array_le_iff]
    simp +contextual [ih]
  | object members ih =>
    rw [plain_object, fault?_object_eq_none_iff, Json.nesting_object_le_iff]
    simp only [List.forall_mem_map, plainMember, nameFault?, true_and, and_true]
    exact and_congr_right fun _ => forall₂_congr fun member among => ih member among

/-- Where no fault is to be found, there is a value. The room counts down with the nesting, so the
induction is on it. -/
theorem exists_plain_of_fault?_eq_none {room : Nat} {document : Document}
    (sound : document.fault? room = none) : ∃ value, document = plain value := by
  induction room generalizing document with
  | zero =>
    cases document with
    | null => exact ⟨.null, rfl⟩
    | boolean value => exact ⟨.boolean value, rfl⟩
    | number value => exact ⟨.number value, rfl⟩
    | string value => exact ⟨.string value, rfl⟩
    | array | object | flawed | missing => simp [fault?] at sound
  | succ room ih =>
    cases document with
    | null => exact ⟨.null, rfl⟩
    | boolean value => exact ⟨.boolean value, rfl⟩
    | number value => exact ⟨.number value, rfl⟩
    | string value => exact ⟨.string value, rfl⟩
    | flawed | missing => simp [fault?] at sound
    | array items cut =>
      obtain ⟨_, each, rfl⟩ := fault?_array_eq_none_iff.mp sound
      obtain ⟨values, rfl⟩ := exists_eq_map fun item member => ih (each item member)
      exact ⟨.array values, (plain_array values).symm⟩
    | object members cut =>
      obtain ⟨_, each, rfl⟩ := fault?_object_eq_none_iff.mp sound
      have readable : ∀ member ∈ members, ∃ source, member = plainMember source := by
        rintro ⟨name, value⟩ among
        obtain ⟨named, valued⟩ := each _ among
        obtain ⟨json, rfl⟩ := ih valued
        cases name with
        | error fault => simp [nameFault?] at named
        | ok name => exact ⟨(name, json), rfl⟩
      obtain ⟨values, rfl⟩ := exists_eq_map readable
      exact ⟨.object values, (plain_object values).symm⟩

theorem itemsToJson?_map_plain {items : List Json}
    (each : ∀ item ∈ items, (plain item).toJson? = some item) :
    itemsToJson? (items.map plain) = some items := by
  induction items with
  | nil => rfl
  | cons item rest ih =>
    obtain ⟨first, others⟩ := List.forall_mem_cons.mp each
    simp only [List.map_cons, itemsToJson?, first, ih others, Option.bind_eq_bind, Option.bind_some]

theorem membersToJson?_map_plain {members : List (String × Json)}
    (each : ∀ member ∈ members, (plain member.2).toJson? = some member.2) :
    membersToJson? (members.map plainMember) = some members := by
  induction members with
  | nil => rfl
  | cons member rest ih =>
    obtain ⟨first, others⟩ := List.forall_mem_cons.mp each
    simp only [List.map_cons, plainMember, membersToJson?, first, ih others, Option.bind_eq_bind,
      Option.bind_some]

theorem toJson?_plain (value : Json) : (plain value).toJson? = some value := by
  induction value with
  | null | boolean | number | string => simp [toJson?]
  | array items ih => rw [plain_array, toJson?, itemsToJson?_map_plain ih, Option.map_some]
  | object members ih => rw [plain_object, toJson?, membersToJson?_map_plain ih, Option.map_some]

theorem eq_map_plain_of_itemsToJson? {documents : List Document} {items : List Json}
    (each : ∀ item ∈ items, ∀ document : Document,
      document.toJson? = some item → document = plain item)
    (valued : itemsToJson? documents = some items) : documents = items.map plain := by
  induction documents generalizing items with
  | nil => cases valued; rfl
  | cons document rest ih =>
    simp only [itemsToJson?, Option.bind_eq_bind, Option.bind_eq_some_iff,
      Option.some.injEq] at valued
    obtain ⟨item, first, others, remaining, rfl⟩ := valued
    obtain ⟨ofItem, ofOthers⟩ := List.forall_mem_cons.mp each
    rw [List.map_cons, ofItem document first, ih ofOthers remaining]

theorem eq_map_plain_of_membersToJson? {documents : List (Name × Document)}
    {members : List (String × Json)}
    (each : ∀ member ∈ members, ∀ document : Document,
      document.toJson? = some member.2 → document = plain member.2)
    (valued : membersToJson? documents = some members) : documents = members.map plainMember := by
  induction documents generalizing members with
  | nil => cases valued; rfl
  | cons member rest ih =>
    obtain ⟨_ | name, document⟩ := member
    · simp [membersToJson?] at valued
    · simp only [membersToJson?, Option.bind_eq_bind, Option.bind_eq_some_iff,
        Option.some.injEq] at valued
      obtain ⟨value, first, others, remaining, rfl⟩ := valued
      obtain ⟨ofMember, ofOthers⟩ := List.forall_mem_cons.mp each
      rw [List.map_cons, ofMember document first, ih ofOthers remaining, plainMember]

theorem eq_plain_of_toJson? {document : Document} {value : Json}
    (valued : document.toJson? = some value) : document = plain value := by
  induction value generalizing document with
  | null | boolean | number | string =>
    cases document with
    | array _ cut => cases cut <;> simp [toJson?] at valued
    | object _ cut => cases cut <;> simp [toJson?] at valued
    | _ => simp_all [toJson?]
  | array items ih =>
    cases document with
    | array documents cut =>
      cases cut with
      | none =>
        have read : itemsToJson? documents = some items := by simpa [toJson?] using valued
        rw [plain_array, eq_map_plain_of_itemsToJson? (fun item among _ => ih item among) read]
      | some halt => simp [toJson?] at valued
    | object _ cut => cases cut <;> simp [toJson?] at valued
    | _ => simp [toJson?] at valued
  | object members ih =>
    cases document with
    | object documents cut =>
      cases cut with
      | none =>
        have read : membersToJson? documents = some members := by simpa [toJson?] using valued
        rw [plain_object,
          eq_map_plain_of_membersToJson? (fun member among _ => ih member among) read]
      | some halt => simp [toJson?] at valued
    | array _ cut => cases cut <;> simp [toJson?] at valued
    | _ => simp [toJson?] at valued

theorem toJson?_eq_some_iff {document : Document} {value : Json} :
    document.toJson? = some value ↔ document = plain value := by
  constructor
  · exact eq_plain_of_toJson?
  · rintro rfl
    exact toJson?_plain value

/-! ### The document of a value -/

theorem itemsOfJson_eq_map (items : List Json) : itemsOfJson items = items.map ofJson := by
  induction items with
  | nil => rfl
  | cons item rest ih => rw [itemsOfJson, List.map_cons, ih]

theorem membersOfJson_eq_map (members : List (String × Json)) :
    membersOfJson members = members.map fun member => (member.1, ofJson member.2) := by
  induction members with
  | nil => rfl
  | cons member rest ih => rw [membersOfJson, List.map_cons, ih]

@[simp] theorem ofJson_array (items : List Json) :
    ofJson (.array items) = .array (items.map ofJson) none := by
  rw [ofJson, itemsOfJson_eq_map]

theorem ofJson_object (members : List (String × Json)) :
    ofJson (.object members) =
      .object ((Table.ofList (members.map fun member => (member.1, ofJson member.2))).entries.map
        named) none := by
  rw [ofJson, membersOfJson_eq_map]

/-- A member of the document of a value. -/
def readMember (member : String × Json) : Name × Document := (.ok member.1, ofJson member.2)

/-- Where the names are distinct, the document has all members in some order. -/
theorem ofJson_object_perm {members : List (String × Json)}
    (distinct : (members.map (·.1)).Nodup) :
    ∃ listed : List (Name × Document), listed.Perm (members.map readMember) ∧
      ofJson (.object members) = .object listed none := by
  refine ⟨_, ?_, ofJson_object members⟩
  have names : ((members.map fun member => (member.1, ofJson member.2)).map (·.1)).Nodup := by
    simpa only [List.map_map, Function.comp_def] using distinct
  have listed := (Table.entries_ofList_perm names).map named
  rwa [List.map_map] at listed

theorem ofJson_eq_of_rearranged {value other : Json} (same : value.Rearranged other)
    (distinct : value.DistinctNames) : ofJson value = ofJson other := by
  induction same with
  | refl => rfl
  | trans one _ first second =>
    exact (first distinct).trans (second (one.distinctNames_iff.mp distinct))
  | order same =>
    have names := (Json.distinctNames_object.mp distinct).1
    rw [ofJson_object, ofJson_object, Table.ofList_eq_of_perm (same.map _)]
    simpa only [List.map_map, Function.comp_def] using names
  | item before after _ ih =>
    have inside :=
      Json.distinctNames_array.mp distinct _ (List.mem_append_right _ List.mem_cons_self)
    simp only [ofJson_array, List.map_append, List.map_cons, ih inside]
  | member before name after _ ih =>
    have inside := (Json.distinctNames_object.mp distinct).2 _
      (List.mem_append_right _ List.mem_cons_self)
    simp only [ofJson_object, List.map_append, List.map_cons, ih inside]

theorem itemsHeight_le_iff {bound : Nat} {items : List Document} :
    itemsHeight items ≤ bound ↔ ∀ item ∈ items, item.height ≤ bound := by
  induction items with
  | nil => simp [itemsHeight]
  | cons item rest ih => rw [itemsHeight, Nat.max_le, ih, List.forall_mem_cons]

theorem membersHeight_le_iff {bound : Nat} {members : List (Name × Document)} :
    membersHeight members ≤ bound ↔ ∀ member ∈ members, member.2.height ≤ bound := by
  induction members with
  | nil => simp [membersHeight]
  | cons member rest ih => rw [membersHeight, Nat.max_le, ih, List.forall_mem_cons]

theorem height_array_le_iff {bound : Nat} {items : List Document} {cut : Option Halt} :
    (array items cut).height ≤ bound ↔ 0 < bound ∧ ∀ item ∈ items, item.height ≤ bound - 1 := by
  rw [height, ← itemsHeight_le_iff]
  omega

theorem height_object_le_iff {bound : Nat} {members : List (Name × Document)}
    {cut : Option Halt} :
    (object members cut).height ≤ bound ↔
      0 < bound ∧ ∀ member ∈ members, member.2.height ≤ bound - 1 := by
  rw [height, ← membersHeight_le_iff]
  omega

theorem height_ofJson_le_iff {bound : Nat} {value : Json} (distinct : value.DistinctNames) :
    (ofJson value).height ≤ bound ↔ (plain value).height ≤ bound := by
  induction value generalizing bound with
  | null | boolean | number | string => simp [ofJson, height]
  | array items ih =>
    have inside := Json.distinctNames_array.mp distinct
    simp only [ofJson_array, plain_array, height_array_le_iff, List.forall_mem_map]
    exact and_congr_right fun _ => forall₂_congr fun item among => ih item among (inside item among)
  | object members ih =>
    obtain ⟨names, inside⟩ := Json.distinctNames_object.mp distinct
    obtain ⟨listed, same, read⟩ := ofJson_object_perm names
    simp only [read, plain_object, height_object_le_iff, same.mem_iff, List.forall_mem_map]
    exact and_congr_right fun _ => forall₂_congr fun member among =>
      ih member among (inside member among)

theorem height_ofJson {value : Json} (distinct : value.DistinctNames) :
    (ofJson value).height = (plain value).height :=
  Nat.le_antisymm ((height_ofJson_le_iff distinct).mpr (Nat.le_refl _))
    ((height_ofJson_le_iff distinct).mp (Nat.le_refl _))

end TaxonomyQuery.Document
