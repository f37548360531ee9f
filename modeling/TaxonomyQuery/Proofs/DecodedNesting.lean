import TaxonomyQuery.Proofs.UniformRecords
/-!
Decoders whose values, written again, are nested no deeper than what they were read from. So what has
been read from a text fits into one when it is written.
-/

set_option autoImplicit false

namespace TaxonomyQuery

variable {α draft : Type}

namespace Decoder

/-- Whatever is read as a value is nested at least as deep as the value is when it is written. -/
def NeverDeepens (decoder : Decoder α) (write : α → Json) : Prop :=
  ∀ ⦃origin : Origin⦄ ⦃json : Json⦄ ⦃value : α⦄,
    decoder origin (.plain json) = .ok value → (write value).nesting ≤ json.nesting

theorem neverDeepens_of_flat {decoder : Decoder α} {write : α → Json}
    (flat : ∀ value, (write value).nesting = 0) : decoder.NeverDeepens write := by
  intro _ json value _
  rw [flat value]
  exact Nat.zero_le _

section List

variable {inner : Decoder α} {write : α → Json} (never : inner.NeverDeepens write)

include never

theorem nesting_le_of_items (within : Origin) {documents : List Json} {values : List α} {bound : Nat}
    (fits : ∀ document ∈ documents, document.nesting ≤ bound)
    (read : items (inner within) (documents.map .plain) = .ok values) :
    ∀ value ∈ values, (write value).nesting ≤ bound := by
  induction documents generalizing values with
  | nil =>
    cases read
    simp
  | cons document rest ih =>
    obtain ⟨here, there⟩ := List.forall_mem_cons.mp fits
    simp only [List.map_cons, items, bind_eq_ok_iff] at read
    obtain ⟨value, first, others, remaining, same⟩ := read
    cases same
    exact List.forall_mem_cons.mpr ⟨Nat.le_trans (never first) here, ih there remaining⟩

theorem neverDeepens_list : (list inner).NeverDeepens fun values => .array (values.map write) := by
  intro origin json values read
  cases json with
  | array documents =>
    rw [Document.plain_array, list_array_eq_ok_iff] at read
    obtain ⟨within, _, read, _⟩ := read
    obtain ⟨positive, fits⟩ :=
      Json.nesting_array_le_iff.mp (Nat.le_refl (Json.array documents).nesting)
    refine Json.nesting_array_le_iff.mpr ⟨positive, ?_⟩
    rw [List.forall_mem_map]
    exact nesting_le_of_items never within fits read
  | _ => simp [list] at read

end List

theorem eq_ok_of_nullable {inner : Decoder α} {origin : Origin} {document : Document} {value : α}
    (read : nullable inner origin document = .ok (some value)) :
    inner origin document = .ok value := by
  unfold nullable at read
  split at read
  · cases read
  · cases read
  · obtain ⟨found, accepted, same⟩ := map_eq_ok_iff.mp read
    rw [accepted, Option.some.inj same]

end Decoder

namespace Field

open Decoder

variable {name : String} {decoder : Decoder α} {write : α → Json}
  {set : Option α → draft → draft} {inv : draft → Prop} {bound : Nat}

/-- Whatever is read into the field keeps the invariant. -/
def Keeps (bound : Nat) (inv : draft → Prop) (field : Field draft) : Prop :=
  ∀ ⦃origin : Origin⦄ ⦃json : Json⦄ ⦃update : draft → draft⦄,
    json.nesting ≤ bound → field.read origin (.plain json) = .ok update →
      ∀ result, inv result → inv (update result)

theorem keeps_nullable (never : decoder.NeverDeepens write)
    (keep : ∀ value result, (∀ present ∈ value, (write present).nesting ≤ bound) → inv result →
      inv (set value result)) :
    (nullable name decoder set).Keeps bound inv := by
  intro origin json update fits read result held
  obtain ⟨value, found, rfl⟩ := map_eq_ok_iff.mp read
  refine keep value result (fun present among => ?_) held
  obtain rfl := Option.mem_def.mp among
  exact Nat.le_trans (never (eq_ok_of_nullable found)) fits

end Field

namespace Record

open Decoder

variable {record : Record draft α} {inv : draft → Prop} {bound : Nat} {origin : Origin}
  {result finished : draft}

theorem readMembers_keeps (closed : record.isOpen = false)
    (each : ∀ field ∈ record.fields, field.Keeps bound inv) {seen : List String}
    {members : List (String × Json)} (fits : ∀ member ∈ members, member.2.nesting ≤ bound)
    (read : record.readMembers origin seen (members.map Document.plainMember) result =
      .ok finished) (held : inv result) : inv finished := by
  induction members generalizing seen result with
  | nil =>
    cases read
    exact held
  | cons member rest ih =>
    obtain ⟨here, there⟩ := List.forall_mem_cons.mp fits
    obtain ⟨name, field, set, _, known, _, found, remaining⟩ :=
      (readMembers_cons_eq_ok_iff closed).mp read
    exact ih there remaining (each field (List.mem_of_find?_eq_some known) here found _ held)

theorem readItems_keeps {length place : Nat} {fields : List (Field draft)}
    (each : ∀ field ∈ fields, field.Keeps bound inv) {items : List Json}
    (fits : ∀ item ∈ items, item.nesting ≤ bound)
    (read : record.readItems origin length none place fields (items.map .plain) result =
      .ok finished) (held : inv result) : inv finished := by
  induction items generalizing fields place result with
  | nil =>
    obtain ⟨_, _, rfl⟩ := readItems_nil_eq_ok_iff.mp read
    exact held
  | cons item rest ih =>
    obtain ⟨here, there⟩ := List.forall_mem_cons.mp fits
    obtain ⟨field, others, set, rfl, found, remaining⟩ := readItems_cons_eq_ok_iff.mp read
    obtain ⟨first, further⟩ := List.forall_mem_cons.mp each
    exact ih further there remaining (first here found _ held)

/-- What holds of the blank record, and is kept by every field, holds of the record that is read. The
bound is that of what stands inside it. -/
theorem decode_keeps (inv : draft → Prop) (closed : record.isOpen = false) {json : Json} {value : α}
    (each : ∀ field ∈ record.fields, field.Keeps (json.nesting - 1) inv) (blank : inv record.blank)
    (read : record.decode origin (.plain json) = .ok value) :
    0 < json.nesting ∧ ∃ finished, inv finished ∧ record.finish finished = .ok value := by
  cases json with
  | array items =>
    obtain ⟨positive, fits⟩ := Json.nesting_array_le_iff.mp (Nat.le_refl (Json.array items).nesting)
    rw [Document.plain_array] at read
    obtain ⟨within, finished, _, read, done⟩ := decode_array_eq_ok_iff.mp read
    exact ⟨positive, finished, readItems_keeps each fits read blank, done⟩
  | object members =>
    obtain ⟨positive, fits⟩ :=
      Json.nesting_object_le_iff.mp (Nat.le_refl (Json.object members).nesting)
    rw [Document.plain_object] at read
    obtain ⟨within, finished, _, read, _, done⟩ := decode_object_eq_ok_iff.mp read
    exact ⟨positive, finished, readMembers_keeps closed each fits read blank, done⟩
  | _ => simp [decode] at read

end Record

end TaxonomyQuery
