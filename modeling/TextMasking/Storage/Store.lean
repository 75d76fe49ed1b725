import TextMasking.Rules.Document
import TextMasking.Storage.Platform

/-!
# Stores

A store keeps a list of rules, in memory or as a rule document in a file. A file that is not there
counts as an empty list. What is saved replaces what was stored.
-/

namespace TextMasking

/-- Why rules could not be loaded or saved. -/
inductive StoreError where
  | unreadable (path : String) (cause : FileError)
  | invalid (path : String) (cause : ImportError)
  | unwritable (cause : FileError)
  | rejected (cause : ImportError)
  deriving DecidableEq, Repr

def StoreError.message : StoreError → String
  | .unreadable path cause => s!"Rule store unavailable: {path}: {cause.message}"
  | .invalid path cause => s!"Rule store unavailable: {path}: {cause.message}"
  | .unwritable cause => s!"An unexpected I/O error occurred: {cause.message}"
  | .rejected cause => cause.message

/-- What went wrong, and the cause of that. -/
def StoreError.chain (e : StoreError) : List String :=
  match e with
  | .unwritable cause => [e.message, cause.message]
  | _ => [e.message]

/-- A place for rules. -/
inductive RuleStore where
  | memory (rules : RuleList)
  | file (path : String)
  deriving Repr

namespace RuleStore

variable {m : Type → Type} [Monad m] [Platform m]

/-- The stored rules. -/
def load : RuleStore → m (Except StoreError RuleList)
  | .memory rules => return .ok rules
  | .file path => do
    if ← Platform.present path then
      match ← Platform.readText path with
      | .error e => return .error (.unreadable path e)
      | .ok text => return (RuleList.read text).mapError (.invalid path)
    else return .ok []

/-- The stored rules, or none if they cannot be loaded. -/
def loadOrEmpty (store : RuleStore) : m RuleList := do
  match ← store.load with
  | .ok rules => return rules
  | .error _ => return []

/-- Stores rules instead of those that were stored. -/
def save (rules : RuleList) : RuleStore → m (Except StoreError RuleStore)
  | .memory _ => return .ok (.memory rules)
  | .file path => do
    match ← Platform.makeParents path with
    | .error e => return .error (.unwritable e)
    | .ok () =>
      match ← Platform.writeText path rules.document with
      | .error e => return .error (.unwritable e)
      | .ok () => return .ok (.file path)

/-- Stores the rules of a rule document. -/
def importDocument (store : RuleStore) (document : String) :
    m (Except StoreError (RuleList × RuleStore)) := do
  match RuleList.read document with
  | .error e => return .error (.rejected e)
  | .ok rules =>
    match ← store.save rules with
    | .error e => return .error e
    | .ok store => return .ok (rules, store)

end RuleStore

namespace RuleList

variable {m : Type → Type} [Monad m] [Platform m]

/-- The rules of the document in a file. -/
def loadFrom (path : String) : m (Except Failure RuleList) := do
  match ← Platform.readText path with
  | .error e => return .error ⟨[s!"Failed to read rules file {path}", e.message]⟩
  | .ok text =>
    return (RuleList.read text).mapError fun e =>
      ⟨[s!"Failed to parse rules file {path}", e.message]⟩

/-- Writes the rules as a document into a file. -/
def saveTo (rules : RuleList) (path : String) : m (Except Failure Unit) := do
  match ← Platform.makeParents path with
  | .error e =>
    let parent := (Path.above path).headD ""
    return .error ⟨[s!"Failed to create directory {parent}", e.message]⟩
  | .ok () =>
    match ← Platform.writeText path rules.document with
    | .error e => return .error ⟨[s!"Failed to write rules file {path}", e.message]⟩
    | .ok () => return .ok ()

end RuleList

end TextMasking
