import TextMasking.Display.Message
import TextMasking.Storage.Store

/-!
# What every command uses

A command works with a file of stored rules and with two displays: one for its output and one for
what it tells besides. A command may fail, and then says at what and why.
-/

namespace TextMasking.Command

/-- What a command is given. -/
structure Context where
  /-- The file of the stored rules. -/
  storePath : String
  output : Display
  errors : Display
  /-- Only warnings and errors are told. -/
  quiet : Bool

variable {m : Type → Type} [Monad m] [Platform m]

/-- A result, or a failure at what `context` says, if it says something. -/
def orFail {α : Type} (context : List String) (result : m (Except FileError α)) :
    ExceptT Failure m α := do
  match ← result with
  | .ok a => return a
  | .error e => throw ⟨context ++ [e.message]⟩

/-- Prints on the standard output, or adds to a file. -/
def put (output : Option String) (text : String) : ExceptT Failure m Unit :=
  match output with
  | none => Platform.print (m := m) text
  | some path => orFail [] (Platform.append (m := m) path text.toUTF8)

namespace Context

/-- The store of the rules. -/
def store (c : Context) : RuleStore := .file c.storePath

/-- Tells something besides the output. -/
def tell (c : Context) (severity : Severity) (text : String) : m Unit :=
  Platform.printError (c.errors.message severity text)

/-- Tells something that may be left out. -/
def mention (c : Context) (severity : Severity) (text : String) : m Unit := do
  if !c.quiet then c.tell severity text

end Context

end TextMasking.Command
