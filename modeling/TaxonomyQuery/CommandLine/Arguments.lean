import TaxonomyQuery.Settings
/-!
The arguments of the program: a command, with options before and after its name.
-/

set_option autoImplicit false

namespace TaxonomyQuery.CommandLine

inductive Command where
  | resolve (file : Option String)
  | query (catalog : String) (filter : Option String) (postType : String) (facets : List String)
deriving DecidableEq, Repr

/-- A command and the depth limit given with it. -/
structure Invocation where
  maxDepth : Option Nat
  command : Command
deriving DecidableEq, Repr

/-- The files that the command reads. -/
def Command.paths : Command → List String
  | .resolve file => file.toList
  | .query catalog filter _ _ => catalog :: filter.toList

def Invocation.paths (invocation : Invocation) : List String := invocation.command.paths

/-- The filter comes from the input where no file is named. -/
def Invocation.readsInput (invocation : Invocation) : Bool :=
  invocation.command = .resolve none

inductive Request where
  | version
  | help
  | invoke (invocation : Invocation)
deriving DecidableEq, Repr

/-- The options that take a value. -/
inductive OptionName where
  | maxDepth
  | file
  | catalog
  | filter
  | postType
  | facet
deriving DecidableEq, Repr

def OptionName.text : OptionName → String
  | .maxDepth => "max-depth"
  | .file => "file"
  | .catalog => "catalog"
  | .filter => "filter"
  | .postType => "post-type"
  | .facet => "facet"

structure Options where
  maxDepth : Option Nat := none
  file : Option String := none
  catalog : Option String := none
  filter : Option String := none
  postType : Option String := none
  facets : List String := []
deriving DecidableEq, Repr

/-- Sets an option that has no value yet. -/
def once {α : Type} (old : Option α) (value : Option α) : Option α :=
  match old with
  | none => value
  | some _ => none

/-- The name of a file, which cannot be empty. -/
def path? (text : String) : Option String := if text.isEmpty then none else some text

def Options.set? (options : Options) (name : OptionName) (text : String) : Option Options :=
  match name with
  | .maxDepth => do
    let value ← once options.maxDepth
      (Text.readNatural Text.greatestNatural text.toList).toOption
    some { options with maxDepth := some value }
  | .file => do
    let value ← once options.file (path? text)
    some { options with file := some value }
  | .catalog => do
    let value ← once options.catalog (path? text)
    some { options with catalog := some value }
  | .filter => do
    let value ← once options.filter (path? text)
    some { options with filter := some value }
  | .postType => do
    let value ← once options.postType (some text)
    some { options with postType := some value }
  | .facet => some { options with facets := options.facets ++ [text] }

/-- An argument by its form. -/
inductive Word where
  | plain (text : String)
  | long (name : String) (value : Option String)
  | short (first : Char)
  | terminator
deriving DecidableEq, Repr

def Word.ofString (text : String) : Word :=
  match text.toList with
  | ['-', '-'] => .terminator
  | '-' :: '-' :: name =>
    match name.dropWhile (· != '=') with
    | _ :: value =>
      .long (String.ofList (name.takeWhile (· != '='))) (some (String.ofList value))
    | [] => .long (String.ofList name) none
  | '-' :: c :: _ => .short c
  | _ => .plain text

/-- What stands at the head of a list of arguments, among the options that are known there. -/
inductive Head where
  | option (options : Options) (rest : List String)
  | version
  | help
  | plain (text : String)
  | terminator
  | invalid

def readHead (known : List OptionName) (options : Options) (first : String)
    (rest : List String) : Head :=
  match Word.ofString first with
  | .plain text => .plain text
  | .terminator => .terminator
  | .short 'h' => .help
  | .short 'V' => .version
  | .short _ => .invalid
  | .long "help" none => .help
  | .long "version" none => .version
  | .long name attached =>
    match known.find? (·.text = name) with
    | none => .invalid
    | some option =>
      match attached, rest with
      | some value, _ =>
        match options.set? option value with
        | some options => .option options rest
        | none => .invalid
      | none, value :: others =>
        match Word.ofString value with
        | .plain value =>
          match options.set? option value with
          | some options => .option options others
          | none => .invalid
        | _ => .invalid
      | none, [] => .invalid

/-- The options behind a command, which takes no other arguments. -/
def readOptions (known : List OptionName) : Nat → Options → List String → Option (Option Options)
  | 0, _, _ => none
  | _ + 1, options, [] => some (some options)
  | fuel + 1, options, first :: rest =>
    match readHead known options first rest with
    | .option options rest => readOptions known fuel options rest
    | .help => some none
    | .terminator => if rest.isEmpty then some (some options) else none
    | .version | .plain _ | .invalid => none

def defaultPostType : String := "post"

def defaultFacets : List String := ["categories", "tags"]

def Options.resolve? (options : Options) : Option Command := some (.resolve options.file)

def Options.query? (options : Options) : Option Command :=
  options.catalog.map fun catalog =>
    .query catalog options.filter (options.postType.getD defaultPostType)
      (if options.facets.isEmpty then defaultFacets else options.facets)

/-- A command by its name: the options it knows, and the command that they make. -/
def command? (name : String) : Option (List OptionName × (Options → Option Command)) :=
  if name = "resolve" then some ([.maxDepth, .file], Options.resolve?)
  else if name = "query" then
    some ([.maxDepth, .catalog, .filter, .postType, .facet], Options.query?)
  else none

/-- A request for help names no command or one that there is. -/
def helpTopics : List (List String) := [[], ["resolve"], ["query"], ["help"]]

/-- Reads arguments up to the name of the command, and the command. -/
def readCommand : Nat → Options → List String → Option Request
  | 0, _, _ => none
  | _ + 1, _, [] => none
  | fuel + 1, options, first :: rest =>
    match readHead [.maxDepth] options first rest with
    | .option options rest => readCommand fuel options rest
    | .version => some .version
    | .help => some .help
    | .terminator | .invalid => none
    | .plain name =>
      if name = "help" then if helpTopics.contains rest then some .help else none
      else do
        let (known, make) ← command? name
        match ← readOptions known (rest.length + 1) {} rest with
        | none => some .help
        | some inner =>
          let command ← make inner
          some (.invoke ⟨inner.maxDepth.or options.maxDepth, command⟩)

/-- What the arguments ask for, or nothing where they are not understood. A limit that stands behind
the command counts before one in front of it. -/
def request? (arguments : List String) : Option Request :=
  readCommand (arguments.length + 1) {} arguments

end TaxonomyQuery.CommandLine
