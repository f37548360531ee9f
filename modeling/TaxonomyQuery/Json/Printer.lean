import TaxonomyQuery.Json.Basic
import TaxonomyQuery.Json.Quoted
/-!
Writing values as text: in one line without spaces, or with every item and member on a line of its
own, indented by two spaces a level.
-/

set_option autoImplicit false

namespace TaxonomyQuery.Json

def quoted (text : String) : List Char := Quoted.encode text.toList

def word (value : Bool) : List Char := if value then "true".toList else "false".toList

mutual

def compact : Json → List Char
  | .null => "null".toList
  | .boolean value => word value
  | .number value => value.text
  | .string value => quoted value
  | .array items => '[' :: compactItems items ++ [']']
  | .object members => '\x7b' :: compactMembers members ++ ['\x7d']

def compactItems : List Json → List Char
  | [] => []
  | [item] => item.compact
  | item :: rest => item.compact ++ ',' :: compactItems rest

def compactMembers : List (String × Json) → List Char
  | [] => []
  | [(name, value)] => quoted name ++ ':' :: value.compact
  | (name, value) :: rest => quoted name ++ ':' :: value.compact ++ ',' :: compactMembers rest

end

def newline (level : Nat) : List Char := '\n' :: List.replicate (2 * level) ' '

mutual

/-- The value as it stands at a level of indentation. -/
def prettyAt (level : Nat) : Json → List Char
  | .null => "null".toList
  | .boolean value => word value
  | .number value => value.text
  | .string value => quoted value
  | .array [] => "[]".toList
  | .array items => '[' :: prettyItems (level + 1) items ++ newline level ++ [']']
  | .object [] => "\x7b\x7d".toList
  | .object members => '\x7b' :: prettyMembers (level + 1) members ++ newline level ++ ['\x7d']

def prettyItems (level : Nat) : List Json → List Char
  | [] => []
  | [item] => newline level ++ prettyAt level item
  | item :: rest => newline level ++ prettyAt level item ++ ',' :: prettyItems level rest

def prettyMembers (level : Nat) : List (String × Json) → List Char
  | [] => []
  | [(name, value)] => newline level ++ quoted name ++ ':' :: ' ' :: prettyAt level value
  | (name, value) :: rest =>
    newline level ++ quoted name ++ ':' :: ' ' :: prettyAt level value ++
      ',' :: prettyMembers level rest

end

def pretty (value : Json) : List Char := prettyAt 0 value

end TaxonomyQuery.Json
