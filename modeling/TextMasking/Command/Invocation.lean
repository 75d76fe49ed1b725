import TextMasking.Command.Grammar
import TextMasking.Rules.Basic

/-!
# Invocations

What the program can be told to do: mask a text, or manage the stored rules. Settings hold on every
level of the command line; the innermost one counts.
-/

namespace TextMasking.Command

/-- How a text is masked. Paths are those of files; without them the standard streams are used. -/
structure MaskRequest where
  input : Option String
  output : Option String
  /-- A rule document to be used instead of the stored rules. -/
  rules : Option String
  /-- The difference is shown instead of the text. -/
  diff : Bool
  noSummary : Bool
  lineBuffered : Bool
  deriving DecidableEq, Repr

/-- What is done with the stored rules. -/
inductive RulesRequest where
  | list
  | add (rule : Rule)
  | remove (number : Nat)
  | replace (path : String)
  | export (output : Option String)
  deriving DecidableEq, Repr

inductive Request where
  | mask (request : MaskRequest)
  | rules (request : RulesRequest)
  deriving DecidableEq, Repr

/-- How much is logged when that is told. -/
inductive LogLevel where
  | off
  | debug
  deriving DecidableEq, Repr

namespace LogLevel

def name : LogLevel → String
  | off => "OFF"
  | debug => "DEBUG"

/-- The level that two switches ask for; the first one wins. -/
def ofSwitches? (quiet debug : Bool) : Option LogLevel :=
  if quiet then some off else if debug then some .debug else none

end LogLevel

/-- What holds for every command. -/
structure Settings where
  /-- Only warnings and errors are told. -/
  quiet : Bool
  debug : Bool
  /-- The file of the stored rules. -/
  store : Option String
  /-- The file of the theme. -/
  theme : Option String
  deriving DecidableEq, Repr

structure Invocation where
  settings : Settings
  request : Request
  deriving DecidableEq, Repr

/-! ### Grammar -/

def quietOption : OptionForm := ⟨"quiet", some 'q', .switch⟩
def debugOption : OptionForm := ⟨"debug", some 'd', .switch⟩
def storeOption : OptionForm := ⟨"store", none, .file⟩
def themeOption : OptionForm := ⟨"theme", none, .file⟩
def helpOption : OptionForm := ⟨"help", some 'h', .help⟩
def versionOption : OptionForm := ⟨"version", some 'V', .version⟩
def inputOption : OptionForm := ⟨"input-file", some 'i', .file⟩
def outputOption : OptionForm := ⟨"output", some 'o', .file⟩
def rulesOption : OptionForm := ⟨"rules", none, .file⟩
def diffOption : OptionForm := ⟨"diff", some 'D', .switch⟩
def noSummaryOption : OptionForm := ⟨"no-summary", none, .switch⟩
def lineBufferedOption : OptionForm := ⟨"line-buffered", none, .switch⟩
def wholeWordOption : OptionForm := ⟨"whole-word", some 'w', .switch⟩
def caseSensitiveOption : OptionForm := ⟨"case-sensitive", some 'c', .switch⟩
def regexOption : OptionForm := ⟨"regex", none, .switch⟩

/-- The options of every level. -/
def commonOptions : List OptionForm :=
  [quietOption, debugOption, storeOption, themeOption, helpOption]

/-- A level without commands. -/
def leaf (options : List OptionForm) (operands : Nat) : Grammar :=
  .level (commonOptions ++ options) operands []

def maskGrammar : Grammar :=
  leaf [inputOption, outputOption, rulesOption, diffOption, noSummaryOption, lineBufferedOption] 0

def rulesGrammar : Grammar :=
  .level commonOptions 0
    [("list", leaf [] 0),
      ("add", leaf [wholeWordOption, caseSensitiveOption, regexOption] 2),
      ("remove", leaf [] 1),
      ("import", leaf [] 1),
      ("export", leaf [outputOption] 0)]

/-- The grammar of the whole command line. -/
def grammar : Grammar :=
  .level (commonOptions ++ [versionOption]) 0 [("mask", maskGrammar), ("rules", rulesGrammar)]

/-! ### Reading -/

/-- The largest number of a rule. -/
def maxNumber : Nat := 18446744073709551615

/-- The number that a word names. -/
def number? (word : String) : Option Nat :=
  let digits :=
    match word.toList with
    | '+' :: rest => rest
    | cs => cs
  if digits.isEmpty || !digits.all Char.isDigit then none
  else
    let n := digits.foldl (fun n c => 10 * n + (c.toNat - '0'.toNat)) 0
    if n ≤ maxNumber then some n else none

namespace Words

/-- How the words say a text is masked. Lines that are shown as they come have no difference to
show. -/
def mask? (w : Words) : Option MaskRequest :=
  let request : MaskRequest :=
    { input := w.file? inputOption.name
      output := w.file? outputOption.name
      rules := w.file? rulesOption.name
      diff := w.switch diffOption.name
      noSummary := w.switch noSummaryOption.name
      lineBuffered := w.switch lineBufferedOption.name }
  if request.lineBuffered && request.diff then none else some request

/-- What the words ask for. -/
def request? (w : Words) : Option Request :=
  match w.path, w.operands with
  | ["mask"], _ => w.mask?.map .mask
  | ["rules", "list"], _ => some (.rules .list)
  | ["rules", "add"], [pattern, replacement] =>
    some (.rules (.add ⟨pattern, replacement, w.switch wholeWordOption.name,
      w.switch caseSensitiveOption.name, w.switch regexOption.name⟩))
  | ["rules", "remove"], [number] => (number? number).map fun n => .rules (.remove n)
  | ["rules", "import"], [path] => if path.isEmpty then none else some (.rules (.replace path))
  | ["rules", "export"], _ => some (.rules (.export (w.file? outputOption.name)))
  | _, _ => none

/-- The settings; the store may come from a variable of the environment, too. -/
def settings (w : Words) (storeVariable : Option String) : Settings :=
  { quiet := w.switch quietOption.name
    debug := w.switch debugOption.name
    store := (w.file? storeOption.name).or storeVariable
    theme := w.file? themeOption.name }

/-- Whether the variable of the store is looked at and empty. -/
def hasEmptyStore (w : Words) (storeVariable : Option String) : Bool :=
  storeVariable == some "" && w.levels.any fun g => !g.has storeOption.name

end Words

/-- Reads the words of a command line. -/
def Invocation.read (storeVariable : Option String) (args : List String) :
    Except Notice Invocation := do
  let words ← grammar.read .nothing args
  if words.hasEmptyStore storeVariable then throw .usage
  match words.request? with
  | some request => return ⟨words.settings storeVariable, request⟩
  | none => throw .usage

end TextMasking.Command
