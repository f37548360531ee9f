import TaxonomyQuery.Json.DecodeError
import TaxonomyQuery.Json.Reader
/-!
Decoders: reading a document as a value of a certain type. The first fault met in reading order is
the answer, whether the text is malformed there or a value has the wrong type.
-/

set_option autoImplicit false

namespace TaxonomyQuery

/-- Whether a document is read straight from a text, with room for so many more arrays and objects
inside one another, or has been read in full before. -/
inductive Origin where
  | text (room : Nat)
  | value
deriving DecidableEq, Repr

/-- Goes into an array or an object. -/
def Origin.enter : Origin → Except DecodeError Origin
  | .text 0 => .error (.malformed .nestedTooDeep)
  | .text (room + 1) => .ok (.text room)
  | .value => .ok .value

abbrev Decoder (α : Type) := Origin → Document → Except DecodeError α

namespace Decoder

variable {α : Type}

/-- The error where a document is not of the wanted type. -/
def mismatch (wanted : String) (document : Document) : DecodeError :=
  match document.glimpse with
  | .ok found => .invalidType found wanted
  | .error fault => .malformed fault

def string : Decoder String
  | _, .string value => .ok value
  | _, document => .error (mismatch "a string" document)

/-- A whole number of at least `least` and at most `greatest`. -/
def integer (wanted : String) (least greatest : Int) : Decoder Int
  | _, .number (.integer value) =>
    if least ≤ value ∧ value ≤ greatest then .ok value else .error (.outOfRange value wanted)
  | _, document => .error (mismatch wanted document)

def int64 : Decoder Int64 := fun origin document =>
  (integer "i64" Int64.minValue.toInt Int64.maxValue.toInt origin document).map Int64.ofInt

def natural : Decoder Nat := fun origin document =>
  (integer "u64" 0 Text.greatestNatural origin document).map Int.toNat

/-- A value or null. -/
def nullable (inner : Decoder α) : Decoder (Option α)
  | _, .null => .ok none
  | _, .flawed .null fault _ => .error (.malformed fault)
  | origin, document => (inner origin document).map some

/-- The items in order, up to the first that is in error. -/
def items (inner : Document → Except DecodeError α) : List Document → Except DecodeError (List α)
  | [] => .ok []
  | item :: rest => do
    let first ← inner item
    let others ← items inner rest
    .ok (first :: others)

/-- Nothing stands where the array or object ends but its end. -/
def ending : Option Halt → Except DecodeError Unit
  | none => .ok ()
  | some halt => .error (.malformed halt.fault)

def list (inner : Decoder α) : Decoder (List α)
  | origin, .array documents cut => do
    let within ← origin.enter
    let values ← items (inner within) documents
    ending cut
    .ok values
  | _, document => .error (mismatch "a sequence" document)

section Variant

def pick (cases : List (String × α)) (name : String) : Except DecodeError α :=
  match cases.find? (·.1 = name) with
  | some found => .ok found.2
  | none => .error (.unknownVariant name (cases.map (·.1)))

/-- The value that goes with a variant's name is null. -/
def unit : Document → Except DecodeError Unit
  | .null => .ok ()
  | document => .error (mismatch "unit" document)

/-- Past the one member of a variant the object ends. -/
def variantEnding : List (Name × Document) → Option Halt → Except DecodeError Unit
  | [], none => .ok ()
  | [], some halt =>
    .error (.malformed (if halt.fault = .endInObject then .endInObject else .expectedValue))
  | _ :: _, _ => .error (.malformed .expectedValue)

/-- A variant written as an object that has its name for the only member. -/
def variantMember (cases : List (String × α)) :
    List (Name × Document) → Option Halt → Except DecodeError α
  | [], none => .error (.malformed .expectedValue)
  | [], some halt => .error (.malformed halt.fault)
  | (.error fault, _) :: _, _ => .error (.malformed fault)
  | (.ok name, document) :: rest, cut => do
    let found ← pick cases name
    unit document
    variantEnding rest cut
    .ok found

/-- One of several named values, written as its name or as an object of its name and null. -/
def variant (cases : List (String × α)) : Decoder α
  | _, .string name => pick cases name
  | .text room, .object members cut => do
    let _ ← (Origin.text room).enter
    variantMember cases members cut
  | .text _, .flawed .string fault _ => .error (.malformed fault)
  | .text _, .missing halt => .error (.malformed halt.fault)
  | .text _, _ => .error (.malformed .expectedValue)
  | .value, .object [(.ok name, document)] _ => do
    let found ← pick cases name
    unit document
    .ok found
  | .value, .object _ _ => .error .notSingleKey
  | .value, document => .error (mismatch "string or map" document)

end Variant

/-- The fault of a document that is still to be read, at any depth. -/
def unreadFault? : Origin → Document → Option Fault
  | .text room, document => document.fault? room
  | .value, _ => none

def firstOk (choices : List (Document → Except DecodeError α)) (document : Document) : Option α :=
  choices.findSome? fun choice => (choice document).toOption

/-- The first of several types that the document fits. A text is read to the document's end before
any of them is tried. -/
def untagged (name : String) (choices : List (Decoder α)) : Decoder α := fun origin document =>
  match unreadFault? origin document with
  | some fault => .error (.malformed fault)
  | none =>
    match firstOk (choices.map (· .value)) document with
    | some value => .ok value
    | none => .error (.noVariant name)

/-- So many arrays and objects may be open at once in a text. -/
def greatestNesting : Nat := 127

/-- Decodes the one document of a text. -/
def ofText (decoder : Decoder α) (text : List Char) : Except DecodeError α := do
  let reading := readDocument text
  let value ← decoder (.text greatestNesting) reading.document
  match reading.after with
  | .error halt => .error (.malformed halt.fault)
  | .ok rest =>
    if skipSpace rest = [] then .ok value else .error (.malformed .trailingCharacters)

def ofJson (decoder : Decoder α) (value : Json) : Except DecodeError α :=
  decoder .value (.ofJson value)

end Decoder

end TaxonomyQuery
