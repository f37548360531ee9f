import TaxonomyQuery.Filter.Compile
import TaxonomyQuery.Text.Lowercase
/-!
The settings of the depth limit, read from named variables.
-/

set_option autoImplicit false

namespace TaxonomyQuery

structure Settings where
  enabled : Bool := false
  limit : Nat := defaultDepthLimit
deriving DecidableEq, Repr

inductive SettingsError where
  | toggle (value : String)
  | limit (fault : Text.NumeralFault)
deriving DecidableEq, Repr

namespace SettingsError

def message : SettingsError → String
  | .toggle _ => "FILTER_QUERY_DEPTH_ENABLED must be 'on' or 'off'"
  | .limit _ => "FILTER_QUERY_DEPTH_MAX must be a valid usize"

def cause : SettingsError → String
  | .toggle value => "unrecognised toggle value '" ++ value ++ "'"
  | .limit fault => fault.message

end SettingsError

namespace Settings

def toggleName : String := "FILTER_QUERY_DEPTH_ENABLED"

def limitName : String := "FILTER_QUERY_DEPTH_MAX"

def readToggle (text : String) : Except SettingsError Bool :=
  let value := String.ofList (Text.lowercase (Text.trim text.toList))
  if value = "on" ∨ value = "true" ∨ value = "1" then .ok true
  else if value = "off" ∨ value = "false" ∨ value = "0" ∨ value = "" then .ok false
  else .error (.toggle value)

def readLimit (text : String) : Except SettingsError Nat :=
  (Text.readNatural Text.greatestNatural (Text.trim text.toList)).mapError .limit

/-- Settings from variables, each with its default where it is not set. The limit has to be a
number even where it is not enabled. -/
def read (value? : String → Option String) : Except SettingsError Settings := do
  let enabled ← match value? toggleName with
    | some text => readToggle text
    | none => .ok false
  let limit ← match value? limitName with
    | some text => readLimit text
    | none => .ok defaultDepthLimit
  .ok ⟨enabled, limit⟩

/-- The limit in force. -/
def depthLimit (settings : Settings) : Nat :=
  if settings.enabled then settings.limit else defaultDepthLimit

end Settings

end TaxonomyQuery
