import TextMasking.Command.Context
import TextMasking.Command.Invocation
import TextMasking.Display.DiffView
import TextMasking.Display.Summary
import TextMasking.Document.PlainText
import TextMasking.Session.LineStream

/-!
# Masking from the command line

A text is masked as a whole, or line by line as it comes. The rules are those of a rule document, if
one is given, or the stored ones; stored rules that cannot be loaded count as none. In the end a
summary is told.
-/

namespace TextMasking.Command.MaskRequest

variable {m : Type → Type} [Monad m] [Platform m]

/-- The text to be masked. -/
def readInput (r : MaskRequest) : ExceptT Failure m String :=
  match r.input with
  | some path => orFail [s!"Failed to read input file {path}"] (Platform.readText (m := m) path)
  | none =>
    orFail ["Failed to read stdin"] (do
      return (Text.decode (← Platform.standardInput (m := m))).mapError fun _ => FileError.notText)

/-- Makes the file for the output, if it goes to one. What was in it is gone. -/
def openOutput (r : MaskRequest) : ExceptT Failure m Unit :=
  match r.output with
  | some path => orFail [s!"Failed to create output file: {path}"] (Platform.create (m := m) path)
  | none => return ()

/-- Finds the rules. Those of a rule document are loaded at once, stored ones when they are used. -/
def findRules (r : MaskRequest) (c : Context) : ExceptT Failure m (m RuleList) := do
  match r.rules with
  | some path =>
    let rules ← ExceptT.mk (RuleList.loadFrom (m := m) path)
    return pure rules
  | none => return c.store.loadOrEmpty

/-- How the masked text is shown: as it is, or by its difference from the text. -/
def present (r : MaskRequest) (c : Context) (text masked : String) : String :=
  if r.diff then
    let display := { c.output with coloured := c.output.coloured && r.output.isNone }
    display.diff text masked
  else masked

/-- Masks a text as a whole. The text is read before the output is made. -/
def maskWhole (r : MaskRequest) (c : Context) (rules : m RuleList) : ExceptT Failure m Report := do
  let text ← r.readInput
  let (report, _, document) :=
    (Session.idle Options.default).enable (← rules) (Document.ofPlainText text) Document.root
  if let some path := r.output then
    c.mention (m := m) .info s!"Writing masked content to file: {path}"
  r.openOutput
  put r.output (r.present c text (document.shown Document.root))
  return report

/-- Masks one line and writes it. -/
def maskLine (r : MaskRequest) (s : LineStream) (line : List UInt8) :
    m (Except Failure LineStream) :=
  ExceptT.run do
    match Text.decode ⟨line.toArray⟩ with
    | .error fault => throw ⟨["Failed to read input line", fault.message]⟩
    | .ok text =>
      match s.push (String.ofList (Text.dropLineEnd text.toList)) with
      | .error e => throw ⟨[e.message]⟩
      | .ok (shown, s) =>
        put r.output (shown ++ "\n")
        return s

/-- Masks a text line by line. The output is made before the text is read. -/
def maskLines (r : MaskRequest) (rules : m RuleList) : ExceptT Failure m Report := do
  let start := LineStream.start (← rules) Options.default
  if let some path := r.input then
    orFail [s!"Failed to open input file {path}"] (Platform.openInput (m := m) path)
  r.openOutput
  let read := Platform.foldLines (m := m) r.input r.maskLine start
  match ← orFail ["Failed to read input line"] read with
  | .ok stream => return stream.report
  | .error f => throw f

/-- Masks a text as the request says. -/
def run (r : MaskRequest) (c : Context) : ExceptT Failure m Unit := do
  let rules ← r.findRules c
  let report ← if r.lineBuffered then r.maskLines rules else r.maskWhole c rules
  if !r.noSummary && !c.quiet then
    Platform.printError (m := m) (report.render c.errors)

end TextMasking.Command.MaskRequest
