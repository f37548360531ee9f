import TaxonomyQuery.Clause.Basic
import TaxonomyQuery.Term.Format
/-!
The written form of clauses and groups.
-/

set_option autoImplicit false

namespace TaxonomyQuery

namespace Relation

def toJson (relation : Relation) : Json := .string relation.name

def decoder : Decoder Relation := Decoder.variant ([and, or].map fun case => (case.name, case))

end Relation

namespace SetOperator

def toJson (operator : SetOperator) : Json := .string operator.name

def decoder : Decoder SetOperator :=
  Decoder.variant ([isIn, notIn].map fun case => (case.name, case))

end SetOperator

namespace TermField

def columnJson (field : TermField) : Json := .string field.column

def columnDecoder : Decoder TermField :=
  Decoder.variant ([id, name].map fun case => (case.column, case))

end TermField

namespace Clause

def toJson (clause : Clause) : Json :=
  .object [("taxonomy", clause.taxonomy.toJson), ("field", clause.field.columnJson),
    ("terms", clause.terms.toJson), ("operator", clause.operator.toJson)]

/-- A clause of which some fields have been read. -/
structure Draft where
  taxonomy : Option Taxonomy := none
  field : Option TermField := none
  terms : Option Terms := none
  operator : Option SetOperator := none

def Draft.finish (draft : Draft) : Except DecodeError Clause := do
  let taxonomy ← Record.need "taxonomy" draft.taxonomy
  let field ← Record.need "field" draft.field
  let terms ← Record.need "terms" draft.terms
  let operator ← Record.need "operator" draft.operator
  .ok ⟨taxonomy, field, terms, operator⟩

def record : Record Draft Clause where
  name := "CompiledClause"
  isOpen := false
  fields := [
    .required "taxonomy" Taxonomy.decoder fun value draft => { draft with taxonomy := some value },
    .required "field" TermField.columnDecoder fun value draft => { draft with field := some value },
    .required "terms" Terms.decoder fun value draft => { draft with terms := some value },
    .required "operator" SetOperator.decoder fun value draft =>
      { draft with operator := some value }]
  blank := {}
  finish := Draft.finish

def decoder : Decoder Clause := record.decode

end Clause

namespace Item

mutual

def toJson : Item → Json
  | .clause single => single.toJson
  | .group relation items =>
    .object (Json.optional "relation" Relation.toJson relation ++
      [("items", .array (itemsToJson items))])

def itemsToJson : List Item → List Json
  | [] => []
  | item :: rest => item.toJson :: itemsToJson rest

end

end Item

namespace Group

def toJson (group : Group) : Json := group.toItem.toJson

/-- A group whose items are read by a decoder of their own. -/
def record (item : Decoder Item) : Record Group Group where
  name := "ClauseGroup"
  isOpen := false
  fields := [
    .nullable "relation" Relation.decoder fun value group => { group with relation := value },
    .defaulted "items" (Decoder.list item) fun value group => { group with items := value }]
  blank := {}
  finish := .ok

end Group

namespace Item

/-- Reads items of no more than `levels` groups inside one another. -/
def decoderWithin : Nat → Decoder Item
  | 0 => fun _ _ => .error (.malformed .nestedTooDeep)
  | levels + 1 =>
    Decoder.untagged "ClauseItem"
      [fun origin document => (Clause.decoder origin document).map .clause,
        fun origin document =>
          ((Group.record (decoderWithin levels)).decode origin document).map Group.toItem]

def decoder : Decoder Item := fun origin document =>
  decoderWithin document.height origin document

end Item

def Group.decoder : Decoder Group := fun origin document =>
  (Group.record (Item.decoderWithin document.height)).decode origin document

end TaxonomyQuery
