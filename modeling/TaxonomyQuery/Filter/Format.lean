import TaxonomyQuery.Filter.Basic
import TaxonomyQuery.Term.Format
/-!
The written form of filters.
-/

set_option autoImplicit false

namespace TaxonomyQuery

namespace Comparison

def toJson (comparison : Comparison) : Json := .string comparison.name

def decoder : Decoder Comparison :=
  Decoder.variant
    ([isIn, notIn, like, notLike, equal, notEqual].map fun case => (case.name, case))

end Comparison

namespace OneOrMany

variable {α : Type}

def toJson (encode : α → Json) : OneOrMany α → Json
  | .one value => encode value
  | .many values => .array (values.map encode)

def decoder (inner : Decoder α) : Decoder (OneOrMany α) :=
  Decoder.untagged "OneOrMany"
    [fun origin document => (inner origin document).map .one,
      fun origin document => (Decoder.list inner origin document).map .many]

end OneOrMany

namespace OperatorSet

variable {α : Type}

def toJson (encode : α → Json) (set : OperatorSet α) : Json :=
  .object <|
    Json.optional "in" (OneOrMany.toJson encode) set.isIn ++
    Json.optional "notIn" (OneOrMany.toJson encode) set.notIn ++
    Json.optional "like" encode set.like ++
    Json.optional "notLike" encode set.notLike ++
    Json.optional "eq" encode set.equal ++
    Json.optional "notEq" encode set.notEqual

def record (inner : Decoder α) : Record (OperatorSet α) (OperatorSet α) where
  name := "OperatorSet"
  isOpen := false
  fields := [
    .nullable "in" (OneOrMany.decoder inner) fun value set => { set with isIn := value },
    .nullable "notIn" (OneOrMany.decoder inner) fun value set => { set with notIn := value },
    .nullable "like" inner fun value set => { set with like := value },
    .nullable "notLike" inner fun value set => { set with notLike := value },
    .nullable "eq" inner fun value set => { set with equal := value },
    .nullable "notEq" inner fun value set => { set with notEqual := value }]
  blank := {}
  finish := .ok

def decoder (inner : Decoder α) : Decoder (OperatorSet α) := (record inner).decode

end OperatorSet

def idJson (value : Int64) : Json := .integer value.toInt

namespace FieldPredicate

def toJson (predicate : FieldPredicate) : Json :=
  .object <|
    Json.optional "name" (OperatorSet.toJson .string) predicate.name ++
    Json.optional "id" (OperatorSet.toJson idJson) predicate.id

def record : Record FieldPredicate FieldPredicate where
  name := "FieldPredicate"
  isOpen := false
  fields := [
    .nullable "name" (OperatorSet.decoder Decoder.string) fun value predicate =>
      { predicate with name := value },
    .nullable "id" (OperatorSet.decoder Decoder.int64) fun value predicate =>
      { predicate with id := value }]
  blank := {}
  finish := .ok

def decoder : Decoder FieldPredicate := record.decode

end FieldPredicate

namespace Filter

mutual

def toJson : Filter → Json
  | ⟨tag, category, conjuncts, disjuncts⟩ =>
    .object <|
      Json.optional "tag" FieldPredicate.toJson tag ++
      Json.optional "category" FieldPredicate.toJson category ++
      belowToJson "and" conjuncts ++ belowToJson "or" disjuncts

def belowToJson (name : String) : Option (List Filter) → List (String × Json)
  | none => []
  | some filters => [(name, .array (allToJson filters))]

def allToJson : List Filter → List Json
  | [] => []
  | filter :: rest => filter.toJson :: allToJson rest

end

/-- A filter whose children are read by a decoder of their own. -/
def record (child : Decoder Filter) : Record Filter Filter where
  name := "FilterNode"
  isOpen := false
  fields := [
    .nullable "tag" FieldPredicate.decoder fun value filter => { filter with tag := value },
    .nullable "category" FieldPredicate.decoder fun value filter =>
      { filter with category := value },
    .nullable "and" (Decoder.list child) fun value filter => { filter with conjuncts := value },
    .nullable "or" (Decoder.list child) fun value filter => { filter with disjuncts := value }]
  blank := {}
  finish := .ok

/-- Reads filters of no more than `levels` levels. -/
def decoderWithin : Nat → Decoder Filter
  | 0 => fun _ _ => .error (.malformed .nestedTooDeep)
  | levels + 1 => (record (decoderWithin levels)).decode

def decoder : Decoder Filter := fun origin document =>
  decoderWithin document.height origin document

def ofJson (value : Json) : Except FilterError Filter :=
  (decoder.ofJson value).mapError .invalidInput

def ofText (text : List Char) : Except FilterError Filter :=
  (decoder.ofText text).mapError .invalidInput

end Filter

end TaxonomyQuery
