import TextMasking.Command.Mask
import TextMasking.Command.Rules

/-!
# The program

The program reads its command line, loads the theme and does what it is told. Its exit code is 0 if
that went well, 1 if it failed and 2 if the command line was wrong.
-/

namespace TextMasking.Command

/-- What the program finds around it. -/
structure Environment where
  /-- A variable that names the file of the stored rules. -/
  storeVariable : Option String
  /-- The directory that settings are kept in. -/
  configDirectory : Option String
  outputIsTerminal : Bool
  errorsAreTerminal : Bool

namespace Environment

/-- A file in the directory that settings are kept in. -/
def configFile? (env : Environment) (name : String) : Option String :=
  env.configDirectory.map fun directory => Path.join (Path.join directory "datamask") name

end Environment

/-! ### Themes -/

/-- Why a theme was not loaded. -/
inductive ThemeError where
  | unreadable (path : String) (cause : FileError)
  | invalid
  deriving DecidableEq, Repr

/-- A cause of an error with its number. -/
def numbered (n : Nat) (cause : String) : String := s!"    {n}: {cause}"

/-- What is told when a theme was not loaded. -/
def ThemeError.report (e : ThemeError) : String :=
  "Error: Theme error\n\nCaused by:\n" ++
    match e with
    | .unreadable path cause =>
      numbered 0 s!"Failed to read theme file {path}" ++ "\n" ++ numbered 1 cause.message ++ "\n"
    | .invalid => numbered 0 Theme.problem

variable {m : Type → Type} [Monad m] [Platform m]

/-- The file of the theme: the one that is asked for, or the one among the settings if it is
there. -/
def themePath? (env : Environment) (settings : Settings) : m (Option String) := do
  match settings.theme, env.configFile? "theme.yaml" with
  | some path, _ => return some path
  | none, some path =>
    let isFile := (← Platform.present path) && !(← Platform.isDirectory path)
    return if isFile then some path else none
  | none, none => return none

/-- The theme for the output. -/
def loadTheme (env : Environment) (settings : Settings) : m (Except ThemeError Theme) := do
  match ← themePath? env settings with
  | none => return .ok Theme.default
  | some path =>
    match ← Platform.readText path with
    | .error e => return .error (.unreadable path e)
    | .ok text =>
      match Theme.read? text with
      | some theme => return .ok theme
      | none => return .error .invalid

/-! ### Commands -/

/-- What is told when there is no place for rules. -/
def noStore : Failure :=
  ⟨["No configuration directory found; pass --store FILE or set DATAMASK_RULES."]⟩

/-- Does what the command line asks for. -/
def Invocation.run (i : Invocation) (env : Environment) (theme : Theme) :
    ExceptT Failure m Unit := do
  match i.settings.store.or (env.configFile? "rules.json") with
  | none => throw noStore
  | some storePath =>
    let context : Context :=
      { storePath
        output := ⟨theme, env.outputIsTerminal⟩
        errors := ⟨theme, env.errorsAreTerminal⟩
        quiet := i.settings.quiet }
    match i.request with
    | .mask request => request.run context
    | .rules request => request.run context

/-- The name and the version of the program. -/
def versionLine : String := "datamask 0.1.8\n"

/-- How the program is called. -/
def usageText : String :=
  "Usage: datamask [OPTIONS] <COMMAND>\n\nCommands:\n" ++
    "  mask   Masks an input file or stdin using the stored rules.\n" ++
    "  rules  List, add, remove, import and export masking rules.\n"

/-- Runs the program with the words of its command line. -/
def program (env : Environment) (args : List String) : m Nat := do
  match Invocation.read env.storeVariable args with
  | .error .version =>
    Platform.print versionLine
    return 0
  | .error .help =>
    Platform.print usageText
    return 0
  | .error .usage =>
    Platform.printError usageText
    return 2
  | .ok invocation =>
    match ← loadTheme env invocation.settings with
    | .error e =>
      Platform.printError e.report
      return 1
    | .ok theme =>
      match ← (invocation.run (m := m) env theme).run with
      | .ok () => return 0
      | .error failure =>
        let errors : Display := ⟨theme, env.errorsAreTerminal⟩
        Platform.printError (errors.message .error failure.line)
        return 1

end TextMasking.Command
