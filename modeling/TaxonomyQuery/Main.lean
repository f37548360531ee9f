import TaxonomyQuery.CommandLine.Run
/-!
The program itself: gathers the arguments and what the run asks for, and prints the outcome.
-/

set_option autoImplicit false

namespace TaxonomyQuery

/-- So many bytes are read from a stream at a time. -/
def chunkSize : USize := 4096

/-- Reads a stream to its end. -/
partial def readToEnd (stream : IO.FS.Stream) (read : ByteArray) : IO ByteArray := do
  let chunk ← stream.read chunkSize
  if chunk.isEmpty then return read else readToEnd stream (read ++ chunk)

/-- An error by its number in the system, which may be given as a negative one. -/
def fileErrorOfCode (code : UInt32) (details : String) : FileError :=
  match min code (-code) with
  | 20 => .notDirectory
  | 21 => .isDirectory
  | 36 => .nameTooLong
  | number => .other (details ++ " (os error " ++ toString number ++ ")")

def fileError : IO.Error → FileError
  | .noFileOrDirectory .. => .notFound
  | .inappropriateType _ code details | .permissionDenied _ code details
  | .resourceExhausted _ code details | .invalidArgument _ code details =>
    fileErrorOfCode code details
  | error => .other (toString error)

/-- The bytes that are read, as a text. -/
def readText (bytes : IO ByteArray) : IO (Except FileError String) := do
  try
    return match String.fromUTF8? (← bytes) with
      | some text => .ok text
      | none => .error .notText
  catch error =>
    return .error (fileError error)

def readFile (path : String) : IO (Except FileError String) := readText (IO.FS.readBinFile path)

def readInput : IO (Except FileError String) :=
  readText do readToEnd (← IO.getStdin) .empty

/-- The variables with the given names, as far as they are set. -/
def readVariables (names : List String) : IO Variables :=
  names.filterMapM fun name => do return (← IO.getEnv name).map fun value => (name, value)

/-- The lines of a file up to the first that is no text. -/
def readableLines : List (List UInt8) → List Char
  | [] => []
  | line :: rest =>
    match String.fromUTF8? ⟨line.toArray⟩ with
    | none => []
    | some text => text.toList ++ if rest.isEmpty then [] else '\n' :: readableLines rest

def readCandidate (path : String) : IO EnvironmentFile.Candidate := do
  try
    let bytes ← IO.FS.readBinFile path
    return .readable (String.ofList (readableLines (bytes.toList.splitOn 10)))
  catch error =>
    return .ofRead (.error (fileError error))

/-- What a directory and those above it have for an environment file, up to the first that has one. -/
def readCandidates : Nat → String → IO (List EnvironmentFile.Candidate)
  | 0, path => return [← readCandidate path]
  | above + 1, path => do
    match ← readCandidate path with
    | .absent => return .absent :: (← readCandidates above ("../" ++ path))
    | found => return [found]

def gather (request : Option CommandLine.Request) : IO CommandLine.Surroundings := do
  let (paths, readsInput) := match request with
    | some (.invoke invocation) => (invocation.paths, invocation.readsInput)
    | _ => ([], false)
  let above := (← IO.currentDir).toString.toList.count '/'
  let candidates ← readCandidates above CommandLine.environmentPath
  let mentioned := EnvironmentFile.mentioned ((EnvironmentFile.search? candidates).getD "")
  let environment ← readVariables (Settings.toggleName :: Settings.limitName :: mentioned)
  let files ← paths.mapM fun path => do return (path, ← readFile path)
  let input ← if readsInput then readInput else pure (.ok "")
  return {
    environment := environment
    input := input
    file := fun path =>
      match files.find? (·.1 = path) with
      | some file => file.2
      | none => .error .notFound
    environmentFiles := candidates }

end TaxonomyQuery

open TaxonomyQuery in
def main (arguments : List String) : IO UInt32 := do
  let request := CommandLine.request? arguments
  let surroundings ← gather request
  let outcome := CommandLine.start request surroundings
  IO.print outcome.stdout
  IO.eprint outcome.stderr
  return outcome.code.toUInt32
