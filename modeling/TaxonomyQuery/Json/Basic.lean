import TaxonomyQuery.Json.Number
/-!
Values of the document format. The members of an object keep the order they are listed in.
-/

set_option autoImplicit false

namespace TaxonomyQuery

inductive Json where
  | null
  | boolean (value : Bool)
  | number (value : Number)
  | string (value : String)
  | array (items : List Json)
  | object (members : List (String × Json))
deriving Repr

namespace Json

def integer (value : Int) : Json := .number (.integer value)

/-- The member of that name, the last one where several have it. -/
def field? (name : String) : Json → Option Json
  | .object members => (members.reverse.find? (·.1 = name)).map (·.2)
  | _ => none

/-- A member that is left out where there is no value. -/
def optional {α : Type} (name : String) (encode : α → Json) : Option α → List (String × Json)
  | none => []
  | some value => [(name, encode value)]

mutual

/-- How many arrays and objects stand inside one another at most. -/
def nesting : Json → Nat
  | .array items => nestingItems items + 1
  | .object members => nestingMembers members + 1
  | _ => 0

def nestingItems : List Json → Nat
  | [] => 0
  | item :: rest => max item.nesting (nestingItems rest)

def nestingMembers : List (String × Json) → Nat
  | [] => 0
  | (_, value) :: rest => max value.nesting (nestingMembers rest)

end

end Json

end TaxonomyQuery
