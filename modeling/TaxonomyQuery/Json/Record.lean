import TaxonomyQuery.Json.Decoder
/-!
Records: objects with known names, which may also be written as arrays of their fields in order.
-/

set_option autoImplicit false

namespace TaxonomyQuery

/-- A field of a record that is put together in a `draft`. An array of fields may end before an
optional one. -/
structure Field (draft : Type) where
  name : String
  optional : Bool
  read : Origin → Document → Except DecodeError (draft → draft)

namespace Field

variable {draft α : Type}

def required (name : String) (decoder : Decoder α) (set : α → draft → draft) : Field draft :=
  ⟨name, false, fun origin document => (decoder origin document).map set⟩

/-- A field with a value of its own where it is left out. -/
def defaulted (name : String) (decoder : Decoder α) (set : α → draft → draft) : Field draft :=
  ⟨name, true, fun origin document => (decoder origin document).map set⟩

/-- A field that may be left out or null. -/
def nullable (name : String) (decoder : Decoder α) (set : Option α → draft → draft) :
    Field draft :=
  defaulted name (Decoder.nullable decoder) set

end Field

/-- An open record passes over names it does not know. The draft is finished once all fields that
are there have been read. -/
structure Record (draft α : Type) where
  name : String
  isOpen : Bool
  fields : List (Field draft)
  blank : draft
  finish : draft → Except DecodeError α

namespace Record

variable {draft α : Type}

def names (record : Record draft α) : List String := record.fields.map (·.name)

/-- Reads items into the fields at their places, the next one at `place`. -/
def readItems (record : Record draft α) (origin : Origin) (length : Nat) (cut : Option Halt) :
    Nat → List (Field draft) → List Document → draft → Except DecodeError draft
  | _, [], [], result =>
    match cut with
    | none => .ok result
    | some halt =>
      let known := halt.fault = .endInList ∨ halt.fault = .trailingComma
      .error (.malformed (if known then halt.fault else .trailingCharacters))
  | _, [], _ :: _, _ =>
    match origin with
    | .text _ => .error (.malformed .trailingCharacters)
    | .value => .error (.tooLong length)
  | place, field :: fields, [], result =>
    match cut with
    | some halt => .error (.malformed halt.fault)
    | none =>
      if field.optional then record.readItems origin length cut (place + 1) fields [] result
      else .error (.tooShort place record.name record.fields.length)
  | place, field :: fields, item :: rest, result => do
    let set ← field.read origin item
    record.readItems origin length cut (place + 1) fields rest (set result)

/-- Reads members into the fields of their names; `seen` are the names that came before. -/
def readMembers (record : Record draft α) (origin : Origin) :
    List String → List (Name × Document) → draft → Except DecodeError draft
  | _, [], result => .ok result
  | _, (.error fault, _) :: _, _ => .error (.malformed fault)
  | seen, (.ok name, document) :: rest, result =>
    match record.fields.find? (·.name = name) with
    | none =>
      if record.isOpen then
        match document.passing? with
        | some fault => .error (.malformed fault)
        | none => record.readMembers origin seen rest result
      else
        .error (.unknownField name record.names)
    | some field =>
      if seen.contains name then .error (.duplicateField name)
      else do
        let set ← field.read origin document
        record.readMembers origin (name :: seen) rest (set result)

def decode (record : Record draft α) : Decoder α
  | origin, .array items cut => do
    let within ← origin.enter
    let result ← record.readItems within items.length cut 0 record.fields items record.blank
    record.finish result
  | origin, .object members cut => do
    let within ← origin.enter
    let result ← record.readMembers within [] members record.blank
    Decoder.ending cut
    record.finish result
  | _, document => .error (Decoder.mismatch ("struct " ++ record.name) document)

/-- The value of a field that has to be there. -/
def need {α : Type} (name : String) : Option α → Except DecodeError α
  | some value => .ok value
  | none => .error (.missingField name)

end Record

end TaxonomyQuery
