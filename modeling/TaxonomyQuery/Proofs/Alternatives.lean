import TaxonomyQuery.Proofs.RecordParts
/-!
Decoders that exclude one another: what one of them reads the other refuses. Among such decoders
nothing depends on which of them is tried first (`Decoder.untagged_eq_of_perm`).
-/

set_option autoImplicit false

namespace TaxonomyQuery

variable {α β γ : Type}

namespace Decoder

/-- No document is read by both, neither out of a text nor out of a value. -/
def Excludes (first : Decoder α) (second : Decoder β) : Prop :=
  ∀ ⦃origin other : Origin⦄ ⦃document : Document⦄ ⦃value : α⦄ ⦃found : β⦄,
    first origin document = .ok value → second other document ≠ .ok found

theorem Excludes.symm {first : Decoder α} {second : Decoder β} (apart : first.Excludes second) :
    second.Excludes first :=
  fun _ _ _ _ _ found read => apart read found

theorem Excludes.map {first : Decoder α} {second : Decoder β} (apart : first.Excludes second)
    (make : α → γ) :
    Excludes (fun origin document => (first origin document).map make) second := by
  intro _ _ _ _ _ made found
  obtain ⟨_, read, _⟩ := map_eq_ok_iff.mp made
  exact apart read found

theorem int64_excludes_string : int64.Excludes string := by
  intro _ _ document _ _ read found
  cases document with
  | string => cases read
  | _ => cases found

/-- Only arrays are lists. -/
theorem excludes_list {decoder : Decoder α}
    (notArray : ∀ origin documents cut value, decoder origin (.array documents cut) ≠ .ok value)
    (inner : Decoder β) : decoder.Excludes (list inner) := by
  intro _ _ document _ _ read found
  cases document with
  | array documents cut => exact notArray _ documents cut _ read
  | _ => cases found

theorem string_excludes_list (inner : Decoder α) : string.Excludes (list inner) :=
  excludes_list (by simp [string]) inner

theorem int64_excludes_list (inner : Decoder α) : int64.Excludes (list inner) :=
  excludes_list (by simp [int64, integer, Except.map]) inner

section Untagged

variable {name : String} {choices others : List (Decoder α)}

theorem untagged_excludes {second : Decoder β} (each : ∀ choice ∈ choices, choice.Excludes second) :
    (untagged name choices).Excludes second := by
  intro _ _ _ _ _ read found
  obtain ⟨choice, member, accepted⟩ := firstOk_eq_some (untagged_eq_ok_iff.mp read).2
  exact each choice member accepted found

/-- The first that reads the document is the only one. -/
theorem firstOk_eq_some_iff (apart : choices.Pairwise Excludes) {document : Document} {value : α} :
    firstOk (choices.map (· .value)) document = some value ↔
      ∃ choice ∈ choices, choice .value document = .ok value := by
  refine ⟨firstOk_eq_some, ?_⟩
  rintro ⟨choice, member, read⟩
  induction choices with
  | nil => cases member
  | cons first rest ih =>
    obtain ⟨alone, further⟩ := List.pairwise_cons.mp apart
    rw [List.map_cons, firstOk, List.findSome?_cons]
    rcases List.mem_cons.mp member with rfl | later
    · rw [read]
      rfl
    · cases outcome : first .value document with
      | ok other => exact absurd read (alone choice later outcome)
      | error error => exact ih further later

theorem untagged_eq_of_perm (apart : choices.Pairwise Excludes) (same : others.Perm choices) :
    untagged name others = untagged name choices := by
  have likewise : others.Pairwise Excludes := (same.pairwise_iff Excludes.symm).mpr apart
  have first (document : Document) :
      firstOk (others.map (· .value)) document = firstOk (choices.map (· .value)) document := by
    apply Option.ext
    intro value
    simp only [firstOk_eq_some_iff likewise, firstOk_eq_some_iff apart, same.mem_iff]
  funext origin document
  simp only [untagged, first]

end Untagged

/-- Two types to choose from, each with what becomes of its values. -/
def either (first : Decoder α) (second : Decoder β) (make : α → γ) (build : β → γ) :
    List (Decoder γ) :=
  [fun origin document => (first origin document).map make,
    fun origin document => (second origin document).map build]

section Either

variable {first : Decoder α} {second : Decoder β} {make : α → γ} {build : β → γ}
  (apart : first.Excludes second)

include apart

theorem either_apart : (either first second make build).Pairwise Excludes :=
  List.pairwise_pair.mpr ((apart.map make).symm.map build).symm

theorem untagged_either_eq_ok_iff {name : String} {origin : Origin} {document : Document}
    {result : γ} :
    untagged name (either first second make build) origin document = .ok result ↔
      unreadFault? origin document = none ∧
        ((∃ value, first .value document = .ok value ∧ make value = result) ∨
          ∃ value, second .value document = .ok value ∧ build value = result) := by
  rw [untagged_eq_ok_iff, firstOk_eq_some_iff (either_apart apart)]
  simp only [either, List.mem_cons, List.not_mem_nil, or_false, exists_eq_or_imp, exists_eq_left,
    map_eq_ok_iff]

end Either

end Decoder

namespace Record

variable {draft sketch : Type}

theorem length_of_readItems {record : Record draft α} {origin : Origin} {length place : Nat}
    {cut : Option Halt} {fields : List (Field draft)} {items : List Document}
    {result finished : draft}
    (read : record.readItems origin length cut place fields items result = .ok finished) :
    fields.countP (!·.optional) ≤ items.length ∧ items.length ≤ fields.length := by
  induction items generalizing fields place result with
  | nil =>
    obtain ⟨_, optional, _⟩ := readItems_nil_eq_ok_iff.mp read
    have none : fields.countP (!·.optional) = 0 := by simpa [List.countP_eq_zero] using optional
    exact ⟨Nat.le_of_eq none, Nat.zero_le _⟩
  | cons item rest ih =>
    obtain ⟨field, others, _, rfl, _, remaining⟩ := readItems_cons_eq_ok_iff.mp read
    have bounds := ih remaining
    simp only [List.countP_cons, List.length_cons]
    split <;> omega

/-- Two records are told apart by the names of their fields and by the number of them. -/
theorem decode_excludes {first : Record draft α} {second : Record sketch β}
    (closed : first.isOpen = false) (shut : second.isOpen = false)
    (apart : first.names.Disjoint second.names)
    (unfinished : ∀ value, first.finish first.blank ≠ .ok value)
    (longer : second.fields.length < first.fields.countP (!·.optional)) :
    Decoder.Excludes first.decode second.decode := by
  intro _ _ document _ _ read found
  cases document with
  | array items cut =>
    obtain ⟨_, _, _, taken, _⟩ := decode_array_eq_ok_iff.mp read
    obtain ⟨_, _, _, had, _⟩ := decode_array_eq_ok_iff.mp found
    have least := (length_of_readItems taken).1
    have most := (length_of_readItems had).2
    omega
  | object members cut =>
    obtain ⟨_, finished, _, taken, _, done⟩ := decode_object_eq_ok_iff.mp read
    obtain ⟨_, _, _, had, _⟩ := decode_object_eq_ok_iff.mp found
    -- Every member would be a field of both, so there is none, and nothing is finished.
    cases members with
    | nil =>
      cases taken
      exact unfinished _ done
    | cons member rest =>
      obtain ⟨name, listed, named⟩ := mem_names_of_readMembers closed taken member List.mem_cons_self
      obtain ⟨other, known, called⟩ := mem_names_of_readMembers shut had member List.mem_cons_self
      obtain rfl : name = other := Except.ok.inj (named.symm.trans called)
      exact apart listed known
  | _ => cases read

end Record

end TaxonomyQuery
