import TextMasking.Command.Context
import TextMasking.Command.Invocation
import TextMasking.Display.Summary
import TextMasking.Matching.Matcher

/-!
# Managing the stored rules

The stored rules are listed, added to, removed by number, replaced by those of a rule document, and
written as one. A request that fails leaves the stored rules as they were.
-/

namespace TextMasking.Command

variable {m : Type → Type} [Monad m] [Platform m]

namespace Context

/-- The stored rules. -/
def loadRules (c : Context) : ExceptT Failure m RuleList := do
  match ← c.store.load (m := m) with
  | .ok rules => return rules
  | .error e => throw ⟨s!"Failed to load rules from {c.storePath}" :: e.chain⟩

/-- Stores rules. -/
def saveRules (c : Context) (rules : RuleList) : ExceptT Failure m Unit := do
  match ← c.store.save (m := m) rules with
  | .ok _ => return ()
  | .error e => throw ⟨s!"Failed to save rules to {c.storePath}" :: e.chain⟩

end Context

namespace RulesRequest

/-- Shows the stored rules. -/
def showRules (c : Context) : ExceptT Failure m Unit := do
  let rules ← c.loadRules
  if rules.isEmpty then c.mention (m := m) .info s!"No rules stored in {c.storePath}."
  else Platform.print (m := m) (rules.table.render ++ "\n")

/-- Adds a rule. A rule that has no matcher is stored too, with a warning. -/
def addRule (rule : Rule) (c : Context) : ExceptT Failure m Unit := do
  let rules ← c.loadRules
  if let .error e := Matcher.compile rule then
    c.tell (m := m) .warning s!"{e.message}; the rule will be skipped until it is fixed."
  match rules.add rule with
  | .error e => throw ⟨[e.message]⟩
  | .ok rules =>
    c.saveRules rules
    c.mention (m := m) .success s!"Added rule #{rules.length}."

/-- Takes out a rule by its number in the list, which begins with one. -/
def takeOut (rules : RuleList) (number : Nat) : Except EditError (Rule × RuleList) :=
  match number with
  | 0 => .error (.noSuchRule 0)
  | index + 1 => (rules.remove index).mapError fun _ => .noSuchRule number

/-- Removes a rule by its number. -/
def removeRule (number : Nat) (c : Context) : ExceptT Failure m Unit := do
  match takeOut (← c.loadRules) number with
  | .error e => throw ⟨[e.message]⟩
  | .ok (rule, rules) =>
    c.saveRules rules
    c.mention (m := m) .success s!"Removed rule #{number} ({rule.pattern} -> {rule.replacement})."

/-- Replaces the stored rules by those of a rule document. -/
def replaceRules (path : String) (c : Context) : ExceptT Failure m Unit := do
  let text ← orFail [s!"Failed to read {path}"] (Platform.readText (m := m) path)
  match ← c.store.importDocument (m := m) text with
  | .ok (rules, _) => c.mention (m := m) .success s!"Imported {rules.length} rules."
  | .error e => throw ⟨e.chain⟩

/-- Writes the stored rules as a rule document. -/
def exportRules (output : Option String) (c : Context) : ExceptT Failure m Unit := do
  let text := (← c.loadRules).document ++ "\n"
  match output with
  | some path =>
    orFail [s!"Failed to write {path}"] (Platform.writeText (m := m) path text)
    c.mention (m := m) .success s!"Exported rules to {path}."
  | none => Platform.print (m := m) text

/-- Does what the request says. -/
def run (r : RulesRequest) (c : Context) : ExceptT Failure m Unit :=
  match r with
  | .list => showRules c
  | .add rule => addRule rule c
  | .remove number => removeRule number c
  | .replace path => replaceRules path c
  | .export output => exportRules output c

end RulesRequest

end TextMasking.Command
