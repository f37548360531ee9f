import TaxonomyQuery.Json.Basic
import TaxonomyQuery.Json.Fault
import TaxonomyQuery.Table
/-!
Documents: what a text holds where a value should stand, faults included, so that one who asks for
a certain type of value meets the faults of the text in the order it is read in.
-/

set_option autoImplicit false

namespace TaxonomyQuery

/-- What a mismatch names of a value that stands where another type was wanted. -/
inductive Found where
  | null
  | boolean (value : Bool)
  | number (value : Number)
  | string (value : String)
  | sequence
  | map
deriving DecidableEq, Repr

/-- Why a text cannot be read on: the fault for one who reads it, and the fault for one who only
passes over it. -/
structure Halt where
  fault : Fault
  passing : Fault
deriving DecidableEq, Repr

/-- The halt at a fault that is the same for both. -/
def Halt.plain (fault : Fault) : Halt := ⟨fault, fault⟩

/-- The scalar types, as far as the first character tells them. -/
inductive Scalar where
  | null
  | boolean
  | number
  | string
deriving DecidableEq, Repr

/-- The name of a member. A complete name can still hold a fault, which counts for one who reads it
and not for one who passes over it. -/
abbrev Name := Except Fault String

/-- An array or an object that is cut holds what came before the place where reading halts. A
flawed scalar has its own fault, and another if it cannot be passed over either. Nothing is read of
a missing value. -/
inductive Document where
  | null
  | boolean (value : Bool)
  | number (value : Number)
  | string (value : String)
  | array (items : List Document) (cut : Option Halt)
  | object (members : List (Name × Document)) (cut : Option Halt)
  | flawed (type : Scalar) (fault : Fault) (passing : Option Fault)
  | missing (halt : Halt)
deriving Repr

namespace Document

/-- The kind of value that stands there, without a look inside arrays and objects. -/
def glimpse : Document → Except Fault Found
  | .null => .ok .null
  | .boolean value => .ok (.boolean value)
  | .number value => .ok (.number value)
  | .string value => .ok (.string value)
  | .array _ _ => .ok .sequence
  | .object _ _ => .ok .map
  | .flawed _ fault _ => .error fault
  | .missing halt => .error halt.fault

def nameFault? : Name → Option Fault
  | .error fault => some fault
  | .ok _ => none

mutual

/-- The first fault of a document in which no more than `room` arrays and objects may stand inside
one another. -/
def fault? (room : Nat) : Document → Option Fault
  | .array items cut =>
    match room with
    | 0 => some .nestedTooDeep
    | room + 1 => (itemsFault? room items).or (cut.map (·.fault))
  | .object members cut =>
    match room with
    | 0 => some .nestedTooDeep
    | room + 1 => (membersFault? room members).or (cut.map (·.fault))
  | .flawed _ fault _ => some fault
  | .missing halt => some halt.fault
  | _ => none

def itemsFault? (room : Nat) : List Document → Option Fault
  | [] => none
  | item :: rest => (fault? room item).or (itemsFault? room rest)

def membersFault? (room : Nat) : List (Name × Document) → Option Fault
  | [] => none
  | (name, value) :: rest =>
    ((nameFault? name).or (fault? room value)).or (membersFault? room rest)

end

mutual

/-- The first fault for one who passes over the document. -/
def passing? : Document → Option Fault
  | .array items cut => (itemsPassing? items).or (cut.map (·.passing))
  | .object members cut => (membersPassing? members).or (cut.map (·.passing))
  | .flawed _ _ passing => passing
  | .missing halt => some halt.passing
  | _ => none

def itemsPassing? : List Document → Option Fault
  | [] => none
  | item :: rest => (passing? item).or (itemsPassing? rest)

def membersPassing? : List (Name × Document) → Option Fault
  | [] => none
  | (_, value) :: rest => (passing? value).or (membersPassing? rest)

end

mutual

/-- One more than the number of arrays and objects that stand inside one another. -/
def height : Document → Nat
  | .array items _ => itemsHeight items + 1
  | .object members _ => membersHeight members + 1
  | _ => 1

def itemsHeight : List Document → Nat
  | [] => 0
  | item :: rest => max item.height (itemsHeight rest)

def membersHeight : List (Name × Document) → Nat
  | [] => 0
  | (_, value) :: rest => max value.height (membersHeight rest)

end

mutual

/-- The value of a document without faults. -/
def toJson? : Document → Option Json
  | .null => some .null
  | .boolean value => some (.boolean value)
  | .number value => some (.number value)
  | .string value => some (.string value)
  | .array items none => (itemsToJson? items).map .array
  | .object members none => (membersToJson? members).map .object
  | _ => none

def itemsToJson? : List Document → Option (List Json)
  | [] => some []
  | item :: rest => do
    let item ← item.toJson?
    let rest ← itemsToJson? rest
    some (item :: rest)

def membersToJson? : List (Name × Document) → Option (List (String × Json))
  | [] => some []
  | (.ok name, value) :: rest => do
    let value ← value.toJson?
    let rest ← membersToJson? rest
    some ((name, value) :: rest)
  | (.error _, _) :: _ => none

end

def named (member : String × Document) : Name × Document := (.ok member.1, member.2)

mutual

/-- A value as a document: members stand in the order of their names, and of those that share a
name the last one counts. -/
def ofJson : Json → Document
  | .null => .null
  | .boolean value => .boolean value
  | .number value => .number value
  | .string value => .string value
  | .array items => .array (itemsOfJson items) none
  | .object members => .object ((Table.ofList (membersOfJson members)).entries.map named) none

def itemsOfJson : List Json → List Document
  | [] => []
  | item :: rest => ofJson item :: itemsOfJson rest

def membersOfJson : List (String × Json) → List (String × Document)
  | [] => []
  | (name, value) :: rest => (name, ofJson value) :: membersOfJson rest

end

end Document

end TaxonomyQuery
