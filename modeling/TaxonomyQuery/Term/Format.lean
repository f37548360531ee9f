import TaxonomyQuery.Term.Basic
import TaxonomyQuery.Json.Record
/-!
The written form of taxonomies and of references to terms.
-/

set_option autoImplicit false

namespace TaxonomyQuery

namespace Taxonomy

def toJson (taxonomy : Taxonomy) : Json := .string taxonomy.name

def decoder : Decoder Taxonomy :=
  Decoder.variant ([tag, category].map fun case => (case.name, case))

end Taxonomy

namespace TermValue

def toJson : TermValue → Json
  | .id value => .integer value.toInt
  | .name value => .string value

def decoder : Decoder TermValue :=
  Decoder.untagged "TermValue"
    [fun origin document => (Decoder.int64 origin document).map .id,
      fun origin document => (Decoder.string origin document).map .name]

end TermValue

namespace Terms

def toJson : Terms → Json
  | .one value => value.toJson
  | .many values => .array (values.map (·.toJson))

def decoder : Decoder Terms :=
  Decoder.untagged "Terms"
    [fun origin document => (TermValue.decoder origin document).map .one,
      fun origin document => (Decoder.list TermValue.decoder origin document).map .many]

end Terms

end TaxonomyQuery
