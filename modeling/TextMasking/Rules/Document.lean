import TextMasking.Json.Printer
import TextMasking.Json.Reader
import TextMasking.Rules.Basic

/-!
# Rule documents

Rules are stored and exchanged as a JSON text: an object whose member `rules` is an array with an
entry for each rule. An entry is an object, or an array of the values in the order of `Rule`. What
an entry does not say is empty or false, and members of other names are ignored. A document is taken
as a whole or not at all.
-/

namespace TextMasking

/-- Why a text is not a rule document. -/
inductive ImportError where
  | notJson
  | noRules
  | badEntry
  deriving DecidableEq, Repr

/-- What stands for the details of a text that is no JSON or of an entry of the wrong type. -/
def Json.problem : String := "<json>"

namespace ImportError

def reason : ImportError → String
  | .notJson => s!"Invalid JSON file: {Json.problem}"
  | .noRules => "Invalid JSON: expected \x7b \"rules\": [...] \x7d"
  | .badEntry => s!"Invalid rule entry: {Json.problem}"

def message (e : ImportError) : String := s!"Import rejected: {e.reason}"

end ImportError

namespace Rule

/-- A text that may be missing. -/
def textOf? : Option Json → Option String
  | none => some ""
  | some (.string s) => some s
  | some _ => none

/-- A flag that may be missing. -/
def flagOf? : Option Json → Option Bool
  | none => some false
  | some (.bool b) => some b
  | some _ => none

/-- The rule of an entry whose values are found by name and by position. -/
def ofValues? (value : String → Nat → Option Json) : Option Rule := do
  return {
    pattern := ← textOf? (value "pattern" 0)
    replacement := ← textOf? (value "replacement" 1)
    wholeWord := ← flagOf? (value "wholeWord" 2)
    caseSensitive := ← flagOf? (value "caseSensitive" 3)
    isRegex := ← flagOf? (value "isRegex" 4) }

/-- The rule of an entry. -/
def ofJson? : Json → Option Rule
  | .object members => ofValues? fun name _ => Json.member? members name
  | .array items => if items.length ≤ 5 then ofValues? fun _ i => items[i]? else none
  | _ => none

/-- The entry of a rule; the flag for regular expressions is written only if it is set. -/
def toJson (r : Rule) : Json :=
  .object ([
    ("pattern", .string r.pattern),
    ("replacement", .string r.replacement),
    ("wholeWord", .bool r.wholeWord),
    ("caseSensitive", .bool r.caseSensitive)]
    ++ if r.isRegex then [("isRegex", .bool true)] else [])

end Rule

namespace RuleList

/-- The rules of a JSON value. -/
def ofJson (v : Json) : Except ImportError RuleList :=
  match v with
  | .object members =>
    match Json.member? members "rules" with
    | some (.array entries) =>
      match entries.mapM Rule.ofJson? with
      | some rules => .ok rules
      | none => .error .badEntry
    | _ => .error .noRules
  | _ => .error .noRules

/-- Reads a rule document. -/
def read (document : String) : Except ImportError RuleList :=
  match Json.read? document with
  | some v => ofJson v
  | none => .error .notJson

/-- The rules as a JSON value. -/
def toJson (rules : RuleList) : Json :=
  .object [("rules", .array (rules.map Rule.toJson))]

/-- Writes a rule document. -/
def document (rules : RuleList) : String :=
  rules.toJson.pretty

end RuleList

end TextMasking
