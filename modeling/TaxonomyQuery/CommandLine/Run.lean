import TaxonomyQuery.Catalog.Format
import TaxonomyQuery.Clause.Format
import TaxonomyQuery.CommandLine.Arguments
import TaxonomyQuery.CommandLine.Report
import TaxonomyQuery.Environment.File
import TaxonomyQuery.Files
import TaxonomyQuery.Filter.ClientError
import TaxonomyQuery.Filter.Format
import TaxonomyQuery.Json.Printer
/-!
Running the program: from its arguments and what it finds around it to its output.
-/

set_option autoImplicit false

namespace TaxonomyQuery.CommandLine

def environmentPath : String := ".env"

/-- Where in a text the first fault is, as it is put behind what is said of the fault. How places are
counted is left to the reader of the texts. -/
structure Positions where
  filter : String → String := fun _ => ""
  snapshot : String → String := fun _ => ""

/-- What the program finds: variables, its files and its input, or why it cannot read them, and what
the working directory and those above it have for an environment file, the nearest one first. The
trace follows the report of a failure where variables ask for one. -/
structure Surroundings where
  environment : Variables
  file : String → Except FileError String
  input : Except FileError String
  environmentFiles : List EnvironmentFile.Candidate := [.ofRead (file environmentPath)]
  positions : Positions := {}
  trace : String := ""

structure Outcome where
  code : Nat
  stdout : String
  stderr : String
deriving DecidableEq, Repr

/-- A command ends with a value to print, with a filter that is refused, or with a failure that has
nothing to do with the filter. -/
inductive Result where
  | printed (value : Json)
  | refused (error : FilterError) (place : String)
  | failed (failure : Failure)

def document (value : Json) : String := String.ofList (value.pretty ++ ['\n'])

def Result.outcome : Result → Outcome
  | .printed value => ⟨0, document value, ""⟩
  | .refused error place => ⟨2, "", document (error.toClientError place).toJson⟩
  | .failed failure => ⟨1, "", failure.report⟩

/-- What comes of the environment file, if one is found. -/
def Surroundings.loaded (surroundings : Surroundings) : EnvironmentFile.Loaded :=
  match EnvironmentFile.search? surroundings.environmentFiles with
  | some text => EnvironmentFile.load surroundings.environment text
  | none => { environment := surroundings.environment }

/-- The variables that count: those that are set, and those of the environment file. -/
def Surroundings.allVariables (surroundings : Surroundings) : Variables :=
  surroundings.loaded.environment

def Surroundings.settings (surroundings : Surroundings) : Except Failure Settings :=
  (Settings.read surroundings.allVariables.get?).mapError fun error =>
    ⟨"failed to load configuration", [error.message, error.cause]⟩

def Surroundings.read (surroundings : Surroundings) (path : String) : Except Failure String :=
  (surroundings.file path).mapError fun error => ⟨"failed to read " ++ path, [error.message]⟩

def Surroundings.readInput (surroundings : Surroundings) : Except Failure String :=
  surroundings.input.mapError fun error => ⟨"failed to read stdin", [error.message]⟩

/-- A filter text, compiled. -/
def compileText (lookup : TermLookup) (limit : Nat) (text : String) : Except FilterError Group := do
  let filter ← Filter.ofText text.toList
  filter.compile lookup limit

def resolve (surroundings : Surroundings) (limit : Nat) (file : Option String) :
    Except Failure Result := do
  let text ← match file with
    | some path => surroundings.read path
    | none => surroundings.readInput
  match compileText .none limit text with
  | .ok group => .ok (.printed group.toJson)
  | .error error => .ok (.refused error (surroundings.positions.filter text))

def readCatalog (surroundings : Surroundings) (path : String) : Except Failure Catalog := do
  let text ← surroundings.read path
  let snapshot ← (Snapshot.decoder.ofText text.toList).mapError fun error =>
    Failure.mk ("invalid catalog snapshot " ++ path)
      [error.message ++ surroundings.positions.snapshot text]
  (Catalog.ofSnapshot snapshot).mapError fun error => ⟨"failed to load catalog", [error.message]⟩

/-- The items that a group selects, and the buckets of each facet. -/
def queryJson (catalog : Catalog) (postType : String) (facets : List String) (group : Group) :
    Json :=
  let aggregations : Table String (List Bucket) :=
    .ofList (facets.map fun facet => (facet, catalog.facet facet postType (some group)))
  .object [
    ("nodes", .array ((catalog.query postType group).map (·.toJson))),
    ("aggregations", .object (aggregations.entries.map fun entry =>
      (entry.1, .array (entry.2.map (·.toJson)))))]

def query (surroundings : Surroundings) (limit : Nat) (catalogPath : String)
    (filter : Option String) (postType : String) (facets : List String) :
    Except Failure Result := do
  let catalog ← readCatalog surroundings catalogPath
  match filter with
  | none => .ok (.printed (queryJson catalog postType facets {}))
  | some path =>
    let text ← surroundings.read path
    match compileText catalog.lookup limit text with
    | .ok group => .ok (.printed (queryJson catalog postType facets group))
    | .error error => .ok (.refused error (surroundings.positions.filter text))

def Invocation.result (invocation : Invocation) (surroundings : Surroundings) :
    Except Failure Result := do
  let settings ← surroundings.settings
  let limit := invocation.maxDepth.getD settings.depthLimit
  match invocation.command with
  | .resolve file => resolve surroundings limit file
  | .query catalog filter postType facets =>
    query surroundings limit catalog filter postType facets

def Invocation.run (invocation : Invocation) (surroundings : Surroundings) : Outcome :=
  match invocation.result surroundings with
  | .ok result => result.outcome
  | .error failure => (Result.failed failure).outcome

def versionText : String := "filter-query-kernel 0.1.0\n"

def helpText : String :=
  "Taxonomy filter tools\n\nUsage: filter-query [OPTIONS] <COMMAND>\n\nCommands:\n" ++
  "  resolve  Compile a filter tree and print the resulting clause group\n" ++
  "  query    Run a filter against a catalog snapshot and print matches with facets\n" ++
  "  help     Print this message or the help of the given subcommand(s)\n\nOptions:\n" ++
  "      --max-depth <MAX_DEPTH>  Override the configured relation depth limit\n" ++
  "  -h, --help                   Print help\n" ++
  "  -V, --version                Print version\n"

def usageText : String :=
  "error: invalid arguments\n\nUsage: filter-query [OPTIONS] <COMMAND>\n\n" ++
  "For more information, try '--help'.\n"

/-- Runs a request; arguments that make none are refused. -/
def run (request : Option Request) (surroundings : Surroundings) : Outcome :=
  match request with
  | none => ⟨2, "", usageText⟩
  | some .version => ⟨0, versionText, ""⟩
  | some .help => ⟨0, helpText, ""⟩
  | some (.invoke invocation) => invocation.run surroundings

/-- The code that the program ends with where it breaks off. -/
def brokenOff : Nat := 101

/-- What is said of a variable that cannot be set. -/
def unsettableText (name value : String) : String :=
  String.ofList ("failed to set environment variable `".toList ++ Text.visible name.toList ++
    "` to `".toList ++ Text.visible value.toList ++
    "`: file name contained an unexpected NUL byte\n".toList)

def Outcome.traced (trace : String) (outcome : Outcome) : Outcome :=
  if outcome.code = 1 then { outcome with stderr := outcome.stderr ++ trace } else outcome

/-- The program from its start. The environment file comes first, even before the arguments, and a
variable in it that cannot be set ends the program. -/
def start (request : Option Request) (surroundings : Surroundings) : Outcome :=
  match surroundings.loaded.unsettable? with
  | some (name, value) => ⟨brokenOff, "", unsettableText name value⟩
  | none => (run request surroundings).traced surroundings.trace

end TaxonomyQuery.CommandLine
