import TaxonomyQuery.Proofs.Alternatives
/-!
Decoders that restore a value from the form it is written in. The written form is taken as a
document with its members as listed; what a uniform decoder restores from it, it restores from
every text and from the value as well (`Restores.ofJson`, `Restores.ofText`).
-/

set_option autoImplicit false

namespace TaxonomyQuery

open Decoder

variable {α β γ draft : Type}

namespace Decoder

/-- The value is read back from the form it is written in. -/
def Restores (decoder : Decoder α) (written : Json) (value : α) : Prop :=
  decoder .value (.plain written) = .ok value

section Restores

variable {decoder : Decoder α} {written : Json} {value : α} (uniform : decoder.Uniform)
  (restores : decoder.Restores written value)

include uniform restores

theorem Restores.ofJson : decoder.ofJson written = .ok value :=
  (uniform.plain_eq_ok_iff.mp restores).2.2

theorem Restores.ofText {text : List Char} (holds : Json.ofText? text = some written)
    (within : written.nesting ≤ greatestNesting) : decoder.ofText text = .ok value :=
  uniform.ofText_eq_ok_iff.mpr ⟨written, holds, within, (uniform.plain_eq_ok_iff.mp restores).2⟩

end Restores

theorem restores_string (text : String) : string.Restores (.string text) text := by
  rw [Restores, Document.plain_string]
  rfl

theorem restores_int64 (number : Int64) : int64.Restores (.integer number.toInt) number := by
  rw [Restores, Json.integer, Document.plain_number]
  have low : Int64.minValue.toInt ≤ number.toInt := number.minValue_le_toInt
  have high : number.toInt ≤ Int64.maxValue.toInt := number.toInt_le
  simp only [int64, integer, low, high, and_self, if_true]
  simp [Except.map]

theorem restores_list {inner : Decoder α} {write : α → Json} {values : List α}
    (each : ∀ value ∈ values, inner.Restores (write value) value) :
    (list inner).Restores (.array (values.map write)) values := by
  rw [Restores, Document.plain_array, list_array_eq_ok_iff]
  refine ⟨.value, rfl, ?_, rfl⟩
  induction values with
  | nil => rfl
  | cons value rest ih =>
    obtain ⟨first, others⟩ := List.forall_mem_cons.mp each
    simp only [List.map_cons, items, bind_eq_ok_iff]
    exact ⟨value, first, rest, ih others, rfl⟩

theorem restores_nullable {inner : Decoder α} {written : Json} {value : α}
    (restores : inner.Restores written value) (present : written ≠ .null) :
    (nullable inner).Restores written (some value) := by
  unfold Restores at restores ⊢
  cases written <;> simp_all [nullable, Except.map]

theorem restores_variant {cases : List (String × α)} {name : String} {value : α}
    (known : cases.find? (·.1 = name) = some (name, value)) :
    (variant cases).Restores (.string name) value := by
  rw [Restores, Document.plain_string, variant, pick, known]

section Either

variable {name : String} {first : Decoder α} {second : Decoder β} {make : α → γ} {build : β → γ}
  {written : Json} (apart : first.Excludes second)

include apart

theorem restores_first {value : α} (restores : first.Restores written value) :
    (untagged name (either first second make build)).Restores written (make value) :=
  (untagged_either_eq_ok_iff apart).mpr ⟨rfl, .inl ⟨value, restores, rfl⟩⟩

/-- What is written as the second type is not taken for the first, though that is tried before. -/
theorem restores_second {value : β} (restores : second.Restores written value) :
    (untagged name (either first second make build)).Restores written (build value) :=
  (untagged_either_eq_ok_iff apart).mpr ⟨rfl, .inr ⟨value, restores, rfl⟩⟩

end Either

end Decoder

namespace Record

variable {record : Record draft α} {origin : Origin} {result finished : draft}

/-- A member that is there is read into its field, and its name has been seen from then on. -/
theorem readMembers_given {name : String} {optional : Bool} {decoder : Decoder β}
    {set : β → draft → draft} {written : Json} {value : β} (before : List String)
    {rest : List (String × Json)} (closed : record.isOpen = false)
    (known : record.fields.find? (·.name = name) =
      some ⟨name, optional, fun origin document => (decoder origin document).map set⟩)
    (restores : decoder.Restores written value) (fresh : name ∉ before)
    (later : ∀ seen, (∀ earlier ∈ seen, earlier ∈ name :: before) →
      record.readMembers .value seen (rest.map Document.plainMember) (set value result) =
        .ok finished)
    (seen : List String) (within : ∀ earlier ∈ seen, earlier ∈ before) :
    record.readMembers .value seen (((name, written) :: rest).map Document.plainMember) result =
      .ok finished := by
  apply (readMembers_cons_eq_ok_iff closed).mpr
  refine ⟨name, _, set value, rfl, known, fun inside => fresh (within name inside),
    map_eq_ok_iff.mpr ⟨value, restores, rfl⟩, later (name :: seen) ?_⟩
  intro earlier inside
  rcases List.mem_cons.mp inside with rfl | old
  · exact List.mem_cons_self
  · exact List.mem_cons_of_mem _ (within earlier old)

/-- A member that may be left out. -/
theorem readMembers_optional {name : String} {decoder : Decoder β} {set : Option β → draft → draft}
    {write : β → Json} {value : Option β} (before : List String) {rest : List (String × Json)}
    (closed : record.isOpen = false)
    (known : record.fields.find? (·.name = name) = some (.nullable name decoder set))
    (restores : ∀ present ∈ value, (nullable decoder).Restores (write present) (some present))
    (unset : set none result = result) (fresh : name ∉ before)
    (later : ∀ seen, (∀ earlier ∈ seen, earlier ∈ name :: before) →
      record.readMembers .value seen (rest.map Document.plainMember) (set value result) =
        .ok finished)
    (seen : List String) (within : ∀ earlier ∈ seen, earlier ∈ before) :
    record.readMembers .value seen
      ((Json.optional name write value ++ rest).map Document.plainMember) result =
        .ok finished := by
  cases value with
  | none =>
    have left := later seen fun earlier inside => List.mem_cons_of_mem _ (within earlier inside)
    rwa [unset] at left
  | some present =>
    exact readMembers_given before closed known (restores present rfl) fresh later seen within

end Record

end TaxonomyQuery
