import TextMasking.Storage.FileError
import TextMasking.Storage.Path

/-!
# File systems

A tree of directories and files as a value, with the operations that a program sees: looking a path
up, reading a file, creating one and adding to it, and making a directory. Each step of a path must
lead through a directory, and a name may only be so long.
-/

namespace TextMasking

/-- What stands at a place in a file system. -/
inductive FileEntry where
  | directory
  | file (content : ByteArray)

/-- A file system. A place is the list of names that lead to it from the root, which is a
directory. -/
structure FileSystem where
  entries : List (List String × FileEntry)
  /-- Where paths that do not start at the root begin. -/
  workingDirectory : List String

namespace FileSystem

/-- The most bytes of a name. -/
def maxName : Nat := 255

/-- The most bytes of a path. -/
def maxPath : Nat := 4095

/-- What stands at a place. -/
def entry? (fs : FileSystem) (place : List String) : Option FileEntry :=
  if place.isEmpty then some .directory else fs.entries.lookup place

/-- Puts an entry at a place, instead of the one there. -/
def put (fs : FileSystem) (place : List String) (entry : FileEntry) : FileSystem :=
  if (fs.entries.lookup place).isSome then
    { fs with entries := fs.entries.map fun e => if e.1 = place then (place, entry) else e }
  else { fs with entries := fs.entries ++ [(place, entry)] }

/-- Takes away what stands at a place and below it. -/
def erase (fs : FileSystem) (place : List String) : FileSystem :=
  { fs with entries := fs.entries.filter fun e => !place.isPrefixOf e.1 }

/-- The place that steps lead to from another. -/
def walk (fs : FileSystem) (place : List String) : List String → Except FileError (List String)
  | [] => .ok place
  | name :: rest =>
    match fs.entry? place with
    | none => .error .notFound
    | some (.file _) => .error .notDirectory
    | some .directory =>
      if name = ".." then fs.walk place.dropLast rest
      else if maxName < name.utf8ByteSize then .error .nameTooLong
      else fs.walk (place ++ [name]) rest

/-- The place that a path leads to; there may be nothing yet. -/
def locate (fs : FileSystem) (path : String) : Except FileError (List String) :=
  if path.isEmpty then .error .notFound
  else if maxPath < path.utf8ByteSize then .error .nameTooLong
  else fs.walk (if Path.isAbsolute path then [] else fs.workingDirectory) (Path.steps path)

/-- What a path leads to. -/
def find (fs : FileSystem) (path : String) : Except FileError FileEntry := do
  match fs.entry? (← fs.locate path) with
  | none => throw .notFound
  | some .directory => return .directory
  | some (.file content) =>
    if Path.namesDirectory path then throw .notDirectory else return .file content

/-- Whether something is there. -/
def present (fs : FileSystem) (path : String) : Bool :=
  (fs.find path).toOption.isSome

def isDirectory (fs : FileSystem) (path : String) : Bool :=
  match fs.find path with
  | .ok .directory => true
  | _ => false

/-- The content of a file. -/
def read (fs : FileSystem) (path : String) : Except FileError ByteArray := do
  match ← fs.find path with
  | .file content => return content
  | .directory => throw .isDirectory

/-- Makes an empty file, or empties the one that is there. -/
def create (fs : FileSystem) (path : String) : Except FileError FileSystem := do
  let place ← fs.locate path
  match fs.entry? place with
  | some .directory => throw .isDirectory
  | some (.file _) =>
    if Path.namesDirectory path then throw .notDirectory else return fs.put place (.file .empty)
  | none =>
    if Path.namesDirectory path then throw .isDirectory else return fs.put place (.file .empty)

/-- Adds to the end of a file. -/
def append (fs : FileSystem) (path : String) (content : ByteArray) :
    Except FileError FileSystem := do
  let before ← fs.read path
  return fs.put (← fs.locate path) (.file (before ++ content))

/-- Makes a directory in one that is there. -/
def makeDirectory (fs : FileSystem) (path : String) : Except FileError FileSystem := do
  let place ← fs.locate path
  match fs.entry? place with
  | some _ => throw .exists
  | none =>
    match fs.entry? place.dropLast with
    | some .directory => return fs.put place .directory
    | some (.file _) => throw .notDirectory
    | none => throw .notFound

end FileSystem

end TextMasking
