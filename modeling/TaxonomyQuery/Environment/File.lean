import TaxonomyQuery.Environment.Value
import TaxonomyQuery.Files
/-!
Environment files: entries of a name, an equals sign and a value. Quoted values may go on over
several lines. A file is looked for in the working directory and in those above it.
-/

set_option autoImplicit false

namespace TaxonomyQuery.EnvironmentFile

/-- The lines of a text, each with its line break. -/
def lines : List Char → List (List Char)
  | [] => []
  | '\n' :: rest => ['\n'] :: lines rest
  | c :: rest =>
    match lines rest with
    | [] => [[c]]
    | line :: others => (c :: line) :: others

/-- Where a line stands with regard to quotes, when it is read in search of its end. -/
inductive LineState where
  | complete
  | blank
  | escape
  | weak
  | weakEscape
  | strong
  | strongEscape
  | comment
deriving DecidableEq, Repr

def LineState.next (state : LineState) (c : Char) : LineState :=
  let opened (other : LineState) : LineState :=
    if c = '\\' then .escape
    else if c = '"' then .weak
    else if c = '\'' then .strong
    else other
  match state with
  | .complete =>
    opened (if Text.isBlank c && c != '\n' && c != '\r' then .blank else .complete)
  | .blank => if c = '#' then .comment else opened .complete
  | .escape => .complete
  | .weak => if c = '\\' then .weakEscape else if c = '"' then .complete else .weak
  | .weakEscape => .weak
  | .strong => if c = '\\' then .strongEscape else if c = '\'' then .complete else .strong
  | .strongEscape => .strong
  | .comment => .comment

/-- Goes through a line: the state at its end, and the line up to a comment. -/
def scanLine : LineState → List Char → LineState × List Char
  | state, [] => (state, [])
  | state, c :: rest =>
    if state.next c = .comment then (.comment, [])
    else
      let (last, kept) := scanLine (state.next c) rest
      (last, c :: kept)

def dropBreak (line : List Char) : List Char :=
  match line.reverse with
  | '\n' :: '\r' :: rest => rest.reverse
  | '\n' :: rest => rest.reverse
  | _ => line

/-- Puts lines together to entries. `before` is an entry whose quotes are still open. The last
entry is missing where the text ends within quotes. -/
def entries : LineState → List Char → List (List Char) → List (Option (List Char))
  | state, _, [] => if state = .complete then [] else [none]
  | state, before, line :: rest =>
    if (Text.trimLeft (before ++ line)).head? = some '#' then
      some [] :: entries .complete [] rest
    else
      match scanLine state line with
      | (.complete, _) => some (dropBreak (before ++ line)) :: entries .complete [] rest
      | (.comment, kept) => some (before ++ kept) :: entries .complete [] rest
      | (unfinished, _) => entries unfinished (before ++ line) rest

def isNameStart (c : Char) : Bool := c.isAlpha || c = '_'

def isNameRest (c : Char) : Bool := c.isAlphanum || c = '_' || c = '.'

/-- A name in front of a text, and the text after it and the blanks that follow. -/
def readName? (text : List Char) : Option (String × List Char) :=
  match text with
  | [] => none
  | c :: _ =>
    if isNameStart c then
      some (String.ofList (text.takeWhile isNameRest),
        Text.trimLeft (text.dropWhile isNameRest))
    else
      none

/-- The name of an entry and the text of its value. The word `export` may stand in front. -/
def splitEntry? (text : List Char) : Option (String × List Char) := do
  match ← readName? text with
  | (name, '=' :: value) => some (name, Text.trimLeft value)
  | (name, rest) =>
    if name = "export" then
      match ← readName? rest with
      | (name, '=' :: value) => some (name, Text.trimLeft value)
      | _ => none
    else none

/-- Values known while a file is read: variables that are set, and those of earlier entries, the
last one first. -/
def valueOf (environment : Variables) (earlier : List (String × String)) (name : List Char) :
    List Char :=
  match environment.get? (String.ofList name) with
  | some value => value.toList
  | none => ((earlier.lookup (String.ofList name)).getD "").toList

/-- The value of an entry. It is empty where there is nothing but a comment. -/
def readSource? (valueOf : List Char → List Char) (source : List Char) : Option String :=
  if source.isEmpty || source.head? = some '#' then some ""
  else (readValue? valueOf {} source).map String.ofList

/-- The variables after a file has been loaded, and the one that could not be set, if there is one,
with its value. -/
structure Loaded where
  environment : Variables
  unsettable? : Option (String × String) := none

/-- Sets the variables of the entries in turn, up to the first entry that is malformed or has a
value that cannot be set. -/
def loadEntries (environment : Variables) (earlier : List (String × String)) :
    List (Option (List Char)) → Loaded
  | [] => ⟨environment, none⟩
  | none :: _ => ⟨environment, none⟩
  | some entry :: rest =>
    match Text.trim entry with
    | [] => loadEntries environment earlier rest
    | '#' :: _ => loadEntries environment earlier rest
    | text =>
      match splitEntry? text with
      | none => ⟨environment, none⟩
      | some (name, source) =>
        match readSource? (valueOf environment earlier) source with
        | none => ⟨environment, none⟩
        | some value =>
          match environment.setNew? name value with
          | none => ⟨environment, some (name, value)⟩
          | some environment => loadEntries environment ((name, value) :: earlier) rest

/-- What may stand in braces as the name of a variable, up to an equals sign. -/
def bracedNames : List Char → List (List Char)
  | [] => []
  | c :: rest =>
    if c = '\x7b' then rest.takeWhile (fun d => d != '\x7d' && d != '=') :: bracedNames rest
    else bracedNames rest

/-- Everything that can be the name of a variable in an environment file. -/
def mentioned (text : String) : List String :=
  let runs (isPart : Char → Bool) := text.toList.splitOnP (!isPart ·)
  let names := runs isNameRest ++ runs Text.isAlphanumeric ++ bracedNames text.toList
  (names.filter (!·.isEmpty)).map String.ofList

def dropMark : List Char → List Char
  | '\uFEFF' :: rest => rest
  | text => text

def load (environment : Variables) (text : String) : Loaded :=
  loadEntries environment [] (entries .complete [] (lines (dropMark text.toList)))

/-! ### Finding a file -/

/-- What a directory has under the name of an environment file: no file, one that cannot be read, or
the lines of one up to the first that is no text. -/
inductive Candidate where
  | absent
  | unreadable
  | readable (lines : String)
deriving DecidableEq, Repr

def Candidate.ofRead : Except FileError String → Candidate
  | .ok text => .readable text
  | .error .notFound | .error .isDirectory => .absent
  | .error _ => .unreadable

/-- The text of the file in the nearest directory that has one, if it can be read. -/
def search? : List Candidate → Option String
  | [] => none
  | .absent :: further => search? further
  | .unreadable :: _ => none
  | .readable lines :: _ => some lines

end TaxonomyQuery.EnvironmentFile
