import TaxonomyQuery.Json.Basic
/-!
Values of the document format as trees: induction on them, how deep they are nested, whether an
object names a member twice, and when two of them differ in the order of members only.
-/

set_option autoImplicit false

namespace TaxonomyQuery.Json

/-- What holds of scalars, and of an array or an object whenever it holds of the values in it, holds
of every value. -/
@[elab_as_elim, induction_eliminator]
theorem induct {motive : Json → Prop} (null : motive .null)
    (boolean : ∀ value, motive (.boolean value)) (number : ∀ value, motive (.number value))
    (string : ∀ value, motive (.string value))
    (array : ∀ items, (∀ item ∈ items, motive item) → motive (.array items))
    (object : ∀ members, (∀ member ∈ members, motive member.2) → motive (.object members))
    (value : Json) : motive value := by
  refine @Json.rec motive (fun items => ∀ item ∈ items, motive item)
    (fun members => ∀ member ∈ members, motive member.2) (fun member => motive member.2)
    null boolean number string array object ?_ ?_ ?_ ?_ ?_ value
  · intro item member
    cases member
  · intro first rest ofFirst ofRest
    exact List.forall_mem_cons.mpr ⟨ofFirst, ofRest⟩
  · intro member among
    cases among
  · intro first rest ofFirst ofRest
    exact List.forall_mem_cons.mpr ⟨ofFirst, ofRest⟩
  · intro _ _ ofValue
    exact ofValue

/-! ### Nesting -/

theorem nestingItems_le_iff {bound : Nat} {items : List Json} :
    nestingItems items ≤ bound ↔ ∀ item ∈ items, item.nesting ≤ bound := by
  induction items with
  | nil => simp [nestingItems]
  | cons item rest ih => rw [nestingItems, Nat.max_le, ih, List.forall_mem_cons]

theorem nestingMembers_le_iff {bound : Nat} {members : List (String × Json)} :
    nestingMembers members ≤ bound ↔ ∀ member ∈ members, member.2.nesting ≤ bound := by
  induction members with
  | nil => simp [nestingMembers]
  | cons member rest ih => rw [nestingMembers, Nat.max_le, ih, List.forall_mem_cons]

theorem nesting_array_le_iff {bound : Nat} {items : List Json} :
    (array items).nesting ≤ bound ↔ 0 < bound ∧ ∀ item ∈ items, item.nesting ≤ bound - 1 := by
  rw [nesting, ← nestingItems_le_iff]
  omega

theorem nesting_object_le_iff {bound : Nat} {members : List (String × Json)} :
    (object members).nesting ≤ bound ↔
      0 < bound ∧ ∀ member ∈ members, member.2.nesting ≤ bound - 1 := by
  rw [nesting, ← nestingMembers_le_iff]
  omega

theorem forall_mem_optional {α : Type} {name : String} {write : α → Json} {value : Option α}
    {property : String × Json → Prop} :
    (∀ member ∈ optional name write value, property member) ↔
      ∀ present ∈ value, property (name, write present) := by
  cases value <;> simp [optional]

/-! ### Names -/

mutual

/-- No object has two members of one name. -/
def DistinctNames : Json → Prop
  | .array items => ItemsDistinct items
  | .object members => (members.map (·.1)).Nodup ∧ MembersDistinct members
  | _ => True

def ItemsDistinct : List Json → Prop
  | [] => True
  | item :: rest => item.DistinctNames ∧ ItemsDistinct rest

def MembersDistinct : List (String × Json) → Prop
  | [] => True
  | (_, value) :: rest => value.DistinctNames ∧ MembersDistinct rest

end

theorem distinctNames_array {items : List Json} :
    (array items).DistinctNames ↔ ∀ item ∈ items, item.DistinctNames := by
  rw [DistinctNames]
  induction items with
  | nil => simp [ItemsDistinct]
  | cons item rest ih => rw [ItemsDistinct, ih, List.forall_mem_cons]

theorem membersDistinct_iff {members : List (String × Json)} :
    MembersDistinct members ↔ ∀ member ∈ members, member.2.DistinctNames := by
  induction members with
  | nil => simp [MembersDistinct]
  | cons member rest ih => rw [MembersDistinct, ih, List.forall_mem_cons]

theorem distinctNames_object {members : List (String × Json)} :
    (object members).DistinctNames ↔
      (members.map (·.1)).Nodup ∧ ∀ member ∈ members, member.2.DistinctNames := by
  rw [DistinctNames, membersDistinct_iff]

/-! ### The order of members -/

/-- The values are the same up to the order of members, at any depth. -/
inductive Rearranged : Json → Json → Prop where
  | refl (value : Json) : Rearranged value value
  | trans {first second third : Json} (one : Rearranged first second)
      (other : Rearranged second third) : Rearranged first third
  | order {members others : List (String × Json)} (same : members.Perm others) :
      Rearranged (.object members) (.object others)
  | item (before : List Json) {value other : Json} (after : List Json)
      (inside : Rearranged value other) :
      Rearranged (.array (before ++ value :: after)) (.array (before ++ other :: after))
  | member (before : List (String × Json)) (name : String) {value other : Json}
      (after : List (String × Json)) (inside : Rearranged value other) :
      Rearranged (.object (before ++ (name, value) :: after))
        (.object (before ++ (name, other) :: after))

namespace Rearranged

theorem nesting_le_iff {value other : Json} (same : Rearranged value other) {bound : Nat} :
    value.nesting ≤ bound ↔ other.nesting ≤ bound := by
  induction same generalizing bound with
  | refl => rfl
  | trans _ _ first second => exact first.trans second
  | order same => simp only [nesting_object_le_iff, same.mem_iff]
  | item before after _ ih =>
    simp only [nesting_array_le_iff, List.forall_mem_append, List.forall_mem_cons, ih]
  | member before name after _ ih =>
    simp only [nesting_object_le_iff, List.forall_mem_append, List.forall_mem_cons, ih]

theorem distinctNames_iff {value other : Json} (same : Rearranged value other) :
    value.DistinctNames ↔ other.DistinctNames := by
  induction same with
  | refl => rfl
  | trans _ _ first second => exact first.trans second
  | order same => simp only [distinctNames_object, (same.map (·.1)).nodup_iff, same.mem_iff]
  | item before after _ ih =>
    simp only [distinctNames_array, List.forall_mem_append, List.forall_mem_cons, ih]
  | member before name after _ ih =>
    simp only [distinctNames_object, List.map_append, List.map_cons, List.forall_mem_append,
      List.forall_mem_cons, ih]

theorem symm {value other : Json} (same : Rearranged value other) : Rearranged other value := by
  induction same with
  | refl value => exact refl value
  | trans _ _ first second => exact second.trans first
  | order same => exact order same.symm
  | item before after _ ih => exact item before after ih
  | member before name after _ ih => exact member before name after ih

end Rearranged

end TaxonomyQuery.Json
