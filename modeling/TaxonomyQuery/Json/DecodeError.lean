import TaxonomyQuery.Json.Document
import TaxonomyQuery.Text.Character
/-!
Why a document cannot be decoded, and how that is put into words.
-/

set_option autoImplicit false

namespace TaxonomyQuery

/-- Why a document is not a value of the wanted type. -/
inductive DecodeError where
  | malformed (fault : Fault)
  | invalidType (found : Found) (wanted : String)
  | outOfRange (value : Int) (wanted : String)
  | notSingleKey
  | unknownField (name : String) (known : List String)
  | unknownVariant (name : String) (known : List String)
  | duplicateField (name : String)
  | missingField (name : String)
  | tooShort (length : Nat) (record : String) (size : Nat)
  | tooLong (length : Nat)
  | noVariant (name : String)
deriving DecidableEq, Repr

def Found.text : Found → List Char
  | .null => "null".toList
  | .boolean value => "boolean `".toList ++ (if value then "true" else "false").toList ++ ['\x60']
  | .number (.integer value) => "integer `".toList ++ Text.decimal value ++ ['\x60']
  | .number (.real value) => "floating point `".toList ++ Number.doubleText value ++ ['\x60']
  | .string value => "string ".toList ++ Text.visible value.toList
  | .sequence => "sequence".toList
  | .map => "map".toList

namespace DecodeError

def ticked (name : String) : List Char := '\x60' :: name.toList ++ ['\x60']

/-- The names that would have been right: one, a choice of two, or one of a list. -/
def expectedNames : List String → List Char
  | [] => []
  | [name] => "expected ".toList ++ ticked name
  | [first, second] => "expected ".toList ++ ticked first ++ " or ".toList ++ ticked second
  | names => "expected one of ".toList ++ ", ".toList.intercalate (names.map ticked)

def text : DecodeError → List Char
  | .malformed fault => fault.message.toList
  | .invalidType found wanted =>
    "invalid type: ".toList ++ found.text ++ ", expected ".toList ++ wanted.toList
  | .outOfRange value wanted =>
    "invalid value: integer `".toList ++ Text.decimal value ++ "`, expected ".toList ++
      wanted.toList
  | .notSingleKey => "invalid value: map, expected map with a single key".toList
  | .unknownField name known =>
    "unknown field ".toList ++ ticked name ++ ", ".toList ++ expectedNames known
  | .unknownVariant name known =>
    "unknown variant ".toList ++ ticked name ++ ", ".toList ++ expectedNames known
  | .duplicateField name => "duplicate field ".toList ++ ticked name
  | .missingField name => "missing field ".toList ++ ticked name
  | .tooShort length record size =>
    "invalid length ".toList ++ Text.decimalNat length ++ ", expected struct ".toList ++
      record.toList ++ " with ".toList ++ Text.decimalNat size ++
      (if size = 1 then " element" else " elements").toList
  | .tooLong length =>
    "invalid length ".toList ++ Text.decimalNat length ++
      ", expected fewer elements in array".toList
  | .noVariant name => "data did not match any variant of untagged enum ".toList ++ name.toList

def message (error : DecodeError) : String := String.ofList error.text

end DecodeError

end TaxonomyQuery
