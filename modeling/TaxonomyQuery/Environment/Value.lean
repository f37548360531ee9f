import TaxonomyQuery.Environment.Basic
import TaxonomyQuery.Text.Character
/-!
Values of an environment file: quotes, escapes, and names of variables that stand for their values.
-/

set_option autoImplicit false

namespace TaxonomyQuery.EnvironmentFile

/-- How the next character of a value is read. -/
inductive ValueMode where
  | plain
  | strong
  | weak
  | ended
deriving DecidableEq, Repr

/-- The name of a variable that is being read, in braces or not. -/
inductive Naming where
  | bare (name : List Char)
  | braced (name : List Char)
deriving DecidableEq, Repr

/-- What has been read of a value. The characters of its text stand with the last one first. -/
structure ValueState where
  mode : ValueMode := .plain
  escaped : Bool := false
  naming : Option Naming := none
  backwards : List Char := []

namespace ValueState

def push (state : ValueState) (text : List Char) : ValueState :=
  { state with backwards := text.reverse ++ state.backwards }

def text (state : ValueState) : List Char := state.backwards.reverse

def unescape? (c : Char) : Option Char :=
  if c = 'n' then some '\n'
  else if c = '\\' || c = '\'' || c = '"' || c = '$' || c = ' ' then some c
  else none

/-- A character of a name, or the one that ends it. A brace ends only a name that it began, and the
character that ends a bare name is taken as it is. -/
def readName (valueOf : List Char → List Char) (state : ValueState) (naming : Naming) (c : Char) :
    ValueState :=
  match naming with
  | .bare name =>
    if Text.isAlphanumeric c then { state with naming := some (.bare (name ++ [c])) }
    else if c = '\x7b' && name.isEmpty then { state with naming := some (.braced []) }
    else if c = '$' then { state.push (valueOf name) with naming := some (.bare []) }
    else { state.push (valueOf name ++ [c]) with naming := none }
  | .braced name =>
    if c = '\x7d' then { state.push (valueOf name) with naming := none }
    else { state with naming := some (.braced (name ++ [c])) }

/-- Reads one character, unless the value is malformed there. -/
def step? (valueOf : List Char → List Char) (state : ValueState) (c : Char) :
    Option ValueState :=
  if state.mode = .ended then
    if c = ' ' || c = '\t' then some state else none
  else if state.escaped then
    (unescape? c).map fun plain => { state.push [plain] with escaped := false }
  else if state.mode = .strong then
    some (if c = '\'' then { state with mode := .plain } else state.push [c])
  else
    match state.naming with
    | some naming => some (state.readName valueOf naming c)
    | none =>
      if c = '$' then some { state with naming := some (.bare []) }
      else if c = '\\' then some { state with escaped := true }
      else if state.mode = .weak then
        some (if c = '"' then { state with mode := .plain } else state.push [c])
      else if c = '\'' then some { state with mode := .strong }
      else if c = '"' then some { state with mode := .weak }
      else if c = ' ' || c = '\t' then some { state with mode := .ended }
      else some (state.push [c])

def finish? (valueOf : List Char → List Char) (state : ValueState) : Option (List Char) :=
  match state.mode, state.naming with
  | .strong, _ | .weak, _ => none
  | _, some (.braced _) => none
  | _, some (.bare name) => some (state.text ++ valueOf name)
  | _, none => some state.text

end ValueState

/-- The value that a text stands for. Past a blank only a comment may follow. -/
def readValue? (valueOf : List Char → List Char) : ValueState → List Char → Option (List Char)
  | state, [] => state.finish? valueOf
  | state, c :: rest =>
    if state.mode = .ended && c = '#' then state.finish? valueOf
    else
      match state.step? valueOf c with
      | some next => readValue? valueOf next rest
      | none => none

end TaxonomyQuery.EnvironmentFile
