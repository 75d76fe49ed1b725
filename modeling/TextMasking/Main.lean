import TextMasking.Command.Program

/-!
# Running the program

The program runs on the system that it is started on. Nothing is decided here: files are opened,
read and written, and the words of the command line are handed on.
-/

namespace TextMasking

/-- The number and the text of a fault, if the system gave them. -/
def systemCode? : IO.Error → Option (Nat × String)
  | .alreadyExists _ n text => some (n.toNat, text)
  | .otherError n text => some (n.toNat, text)
  | .noFileOrDirectory _ n text => some (n.toNat, text)
  | .invalidArgument _ n text => some (n.toNat, text)
  | .permissionDenied _ n text => some (n.toNat, text)
  | .resourceExhausted _ n text => some (n.toNat, text)
  | .inappropriateType _ n text => some (n.toNat, text)
  | .noSuchThing _ n text => some (n.toNat, text)
  | .hardwareFault n text => some (n.toNat, text)
  | .illegalOperation n text => some (n.toNat, text)
  | _ => none

/-- A fault of the system as one of a file. -/
def fileError (e : IO.Error) : FileError :=
  match systemCode? e with
  | some (2, _) => .notFound
  | some (17, _) => .exists
  | some (20, _) => .notDirectory
  | some (21, _) => .isDirectory
  | some (36, _) => .nameTooLong
  | some (n, text) => .other s!"{text} (os error {n})"
  | none => .other (toString e)

/-- Does something with a file. -/
def attempt {α : Type} (action : IO α) : IO (Except FileError α) := do
  try return .ok (← action) catch e => return .error (fileError e)

/-- Opens a file or a directory for reading. -/
def openStream (path : String) : IO IO.FS.Stream := do
  return .ofHandle (← IO.FS.Handle.mk path .read)

/-- The rest of a stream. -/
partial def readRest (stream : IO.FS.Stream) (sofar : ByteArray) : IO ByteArray := do
  let chunk ← stream.read 65536
  if chunk.isEmpty then return sofar else readRest stream (sofar ++ chunk)

/-- The next line of a stream, or nothing at its end. The last byte read comes first. -/
partial def readLine (stream : IO.FS.Stream) (sofar : List UInt8) : IO (List UInt8) := do
  match (← stream.read 1).toList with
  | [] => return sofar.reverse
  | byte :: _ =>
    if byte = 10 then return (byte :: sofar).reverse else readLine stream (byte :: sofar)

/-- Goes through the lines of a stream until a step fails. -/
partial def foldStream {σ : Type} (stream : IO.FS.Stream)
    (step : σ → List UInt8 → IO (Except Failure σ)) (s : σ) :
    IO (Except FileError (Except Failure σ)) := do
  match ← attempt (readLine stream []) with
  | .error e => return .error e
  | .ok [] => return .ok (.ok s)
  | .ok line =>
    match ← step s line with
    | .ok s => foldStream stream step s
    | .error f => return .ok (.error f)

instance : Platform IO where
  present path := do
    match ← attempt (openStream path) with
    | .ok _ => return true
    | .error (.other _) => return true
    | .error _ => return false
  isDirectory path := do
    let found ← attempt do (← openStream path).read 1
    match found with
    | .error .isDirectory => return true
    | _ => return false
  read path := attempt do readRest (← openStream path) .empty
  openInput path := attempt do let _ ← openStream path
  create path := attempt (IO.FS.writeBinFile path .empty)
  append path content := attempt do (← IO.FS.Handle.mk path .append).write content
  makeDirectory path := attempt (IO.FS.createDir path)
  standardInput := do readRest (← IO.getStdin) .empty
  foldLines source step start := do
    match source with
    | none => foldStream (← IO.getStdin) step start
    | some path =>
      match ← attempt (openStream path) with
      | .error e => return .error e
      | .ok stream => foldStream stream step start
  print text := do
    let stream ← IO.getStdout
    stream.putStr text
    stream.flush
  printError text := do
    let stream ← IO.getStderr
    stream.putStr text
    stream.flush

/-- The directory that settings are kept in. -/
def configDirectory : IO (Option String) := do
  match ← IO.getEnv "XDG_CONFIG_HOME", ← IO.getEnv "HOME" with
  | some directory, home =>
    if Path.isAbsolute directory then return some directory
    else return home.map fun h => Path.join h ".config"
  | none, home => return home.map fun h => Path.join h ".config"

/-- What the program finds around it. -/
def environment : IO Command.Environment := do
  return {
    storeVariable := ← IO.getEnv "DATAMASK_RULES"
    configDirectory := ← configDirectory
    outputIsTerminal := ← (← IO.getStdout).isTty
    errorsAreTerminal := ← (← IO.getStderr).isTty }

end TextMasking

def main (args : List String) : IO UInt32 := do
  let code ← TextMasking.Command.program (← TextMasking.environment) args
  return code.toUInt32
