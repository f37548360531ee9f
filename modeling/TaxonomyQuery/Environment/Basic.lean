/-!
Environment variables. A system holds each as a line of its name, an equals sign and its value, and
finds one by the beginning of its line.
-/

set_option autoImplicit false

namespace TaxonomyQuery

/-- Variables and their values. The first line that begins as asked counts. -/
abbrev Variables := List (String × String)

namespace Variables

def line (entry : String × String) : List Char := entry.1.toList ++ '=' :: entry.2.toList

/-- What follows a name and an equals sign at the beginning of a line. -/
def valueAfter? : List Char → List Char → Option (List Char)
  | [], '=' :: value => some value
  | c :: name, d :: line => if c = d then valueAfter? name line else none
  | _, _ => none

def valueFor? (name : List Char) (entry : String × String) : Option String :=
  (valueAfter? name (line entry)).map String.ofList

/-- The value of a variable. No variable has an empty name, and a name that holds an equals sign
goes on into a value. -/
def get? (environment : Variables) (name : String) : Option String :=
  if name.isEmpty then none else environment.findSome? (valueFor? name.toList)

/-- Sets a variable unless it is set already. A value that holds the character 0, which ends a line,
cannot be set. -/
def setNew? (environment : Variables) (name value : String) : Option Variables :=
  match environment.get? name with
  | some _ => some environment
  | none =>
    if value.toList.contains '\x00' then none else some (environment ++ [(name, value)])

end Variables

end TaxonomyQuery
