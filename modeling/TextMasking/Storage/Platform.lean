import TextMasking.Storage.FileSystem
import TextMasking.Text.Lines
import TextMasking.Text.Utf8

/-!
# Platforms

A program works on a platform: it reads and writes files and the standard streams. The commands are
written over any platform. `Machine` is a platform that is a value, so what a command does can be
computed and reasoned about.
-/

namespace TextMasking

/-- The operations of a platform. -/
class Platform (m : Type → Type) where
  present : String → m Bool
  isDirectory : String → m Bool
  read : String → m (Except FileError ByteArray)
  /-- Opens a file or a directory for reading, and reads nothing yet. -/
  openInput : String → m (Except FileError Unit)
  /-- Makes an empty file, or empties the one that is there. -/
  create : String → m (Except FileError Unit)
  append : String → ByteArray → m (Except FileError Unit)
  makeDirectory : String → m (Except FileError Unit)
  standardInput : m ByteArray
  /-- Goes through the lines of a file, or of standard input, as they come. Each line still has its
  line feed. A step that fails is the last one. -/
  foldLines {σ : Type} (source : Option String) (step : σ → List UInt8 → m (Except Failure σ))
    (start : σ) : m (Except FileError (Except Failure σ))
  print : String → m Unit
  printError : String → m Unit

/-! ### A platform as a value -/

/-- A platform: its files, what standard input holds, and what was printed. -/
structure Machine where
  files : FileSystem
  input : ByteArray
  output : String
  errors : String

namespace Machine

/-- Looks at the files. -/
def asks {α : Type} (f : FileSystem → α) : StateM Machine α := do
  return f (← get).files

/-- Changes the files, unless that fails. -/
def changes (f : FileSystem → Except FileError FileSystem) :
    StateM Machine (Except FileError Unit) := do
  match f (← get).files with
  | .ok files =>
    modify fun w => { w with files }
    return .ok ()
  | .error e => return .error e

/-- Goes through lines until a step fails. -/
def foldSteps {σ : Type} (step : σ → List UInt8 → StateM Machine (Except Failure σ)) (s : σ) :
    List (List UInt8) → StateM Machine (Except Failure σ)
  | [] => return .ok s
  | line :: rest => do
    match ← step s line with
    | .ok s => foldSteps step s rest
    | .error f => return .error f

/-- What a file holds, or standard input. -/
def content (source : Option String) : StateM Machine (Except FileError ByteArray) :=
  match source with
  | some path => asks fun fs => fs.read path
  | none => return .ok (← get).input

instance : Platform (StateM Machine) where
  present path := asks fun fs => fs.present path
  isDirectory path := asks fun fs => fs.isDirectory path
  read path := asks fun fs => fs.read path
  openInput path := asks fun fs => (fs.find path).map fun _ => ()
  create path := changes fun fs => fs.create path
  append path content := changes fun fs => fs.append path content
  makeDirectory path := changes fun fs => fs.makeDirectory path
  standardInput := return (← get).input
  foldLines source step start := do
    match ← content source with
    | .error e => return .error e
    | .ok bytes => return .ok (← foldSteps step start (Text.byteLines bytes.toList))
  print text := modify fun w => { w with output := w.output ++ text }
  printError text := modify fun w => { w with errors := w.errors ++ text }

end Machine

/-! ### Operations of every platform -/

namespace Platform

variable {m : Type → Type} [Monad m] [Platform m]

/-- The text of a file. -/
def readText (path : String) : m (Except FileError String) := do
  match ← read path with
  | .error e => return .error e
  | .ok content => return (Text.decode content).mapError fun _ => .notText

/-- Writes a file whose content is the text. -/
def writeText (path text : String) : m (Except FileError Unit) := do
  match ← create path with
  | .error e => return .error e
  | .ok () => append path text.toUTF8

/-- Makes the first directory and, as far as they are missing, the ones above it, which follow it in
the list. -/
def makeDirectories : List String → m (Except FileError Unit)
  | [] => return .ok ()
  | path :: above => do
    match ← makeDirectory path with
    | .ok () => return .ok ()
    | .error .notFound =>
      match ← makeDirectories above with
      | .error e => return .error e
      | .ok () =>
        match ← makeDirectory path with
        | .ok () => return .ok ()
        | .error e => return if ← isDirectory path then .ok () else .error e
    | .error e => return if ← isDirectory path then .ok () else .error e

/-- Makes the directories above a path. -/
def makeParents (path : String) : m (Except FileError Unit) :=
  makeDirectories (Path.above path)

end Platform

end TextMasking
