/-!
Files, why one cannot be read, and files held in memory, which are found by their paths from a
working directory.
-/

set_option autoImplicit false

namespace TaxonomyQuery

inductive FileError where
  | notFound
  | notDirectory
  | isDirectory
  | nameTooLong
  | notText
  | other (description : String)
deriving DecidableEq, Repr

def FileError.message : FileError → String
  | .notFound => "No such file or directory (os error 2)"
  | .notDirectory => "Not a directory (os error 20)"
  | .isDirectory => "Is a directory (os error 21)"
  | .nameTooLong => "File name too long (os error 36)"
  | .notText => "stream did not contain valid UTF-8"
  | .other description => description

/-- A text that is there can be read. -/
instance : Coe String (Except FileError String) := ⟨.ok⟩

/-- A place in a tree of directories: the names on the way there from the root. -/
abbrev Place := List String

structure FileTree where
  files : List (Place × String)
  working : Place

namespace FileTree

def text? (tree : FileTree) (place : Place) : Option String :=
  (tree.files.find? (·.1 = place)).map (·.2)

/-- The directories are those on the way to a file or to the working directory. -/
def isDirectory (tree : FileTree) (place : Place) : Bool :=
  place.isPrefixOf tree.working || tree.files.any fun file => place.isPrefixOf file.1.dropLast

/-- A name may have so many bytes. -/
def greatestName : Nat := 255

/-- A path may have so many bytes. -/
def greatestPath : Nat := 4095

/-- Goes from a directory to what has the name there. -/
def step (tree : FileTree) (place : Place) (name : String) : Except FileError Place :=
  if !tree.isDirectory place then .error .notDirectory
  else if name = "" ∨ name = "." then .ok place
  else if name = ".." then .ok place.dropLast
  else if greatestName < name.utf8ByteSize then .error .nameTooLong
  else if tree.isDirectory (place ++ [name]) ∨ (tree.text? (place ++ [name])).isSome then
    .ok (place ++ [name])
  else .error .notFound

/-- The place that a path leads to. Behind a slash at its end there is still an empty name, so only
the path of a directory has one. -/
def find (tree : FileTree) (path : String) : Except FileError Place :=
  let names := (path.toList.splitOn '/').map String.ofList
  if path.isEmpty then .error .notFound
  else if greatestPath < path.utf8ByteSize then .error .nameTooLong
  else names.foldlM tree.step (if path.toList.head? = some '/' then [] else tree.working)

def read (tree : FileTree) (path : String) : Except FileError String := do
  let place ← tree.find path
  match tree.text? place with
  | some text => .ok text
  | none => .error .isDirectory

end FileTree

end TaxonomyQuery
