import TextMasking.Proofs.Json.Printing
import TextMasking.Rules.Document

/-!
# Rule documents keep the rules

Rules that are written as a document and read again are the same rules in the same order, whatever
their texts and flags (`RuleList.read_document`). The flag for regular expressions, which is only
written where it is set, comes back as well.
-/

namespace TextMasking

namespace Rule

/-- The entry of a rule stands inside the array of the rules, which stands inside an object. -/
theorem readable_toJson (r : Rule) : Json.Readable 2 r.toJson := by
  refine .object (by decide) fun m hm => ?_
  cases hregex : r.isRegex <;>
    simp only [hregex, List.mem_append, List.mem_cons, List.not_mem_nil, or_false, if_true,
      Bool.false_eq_true, if_false] at hm
  · obtain rfl | rfl | rfl | rfl := hm
    · exact .string _
    · exact .string _
    · exact .bool _
    · exact .bool _
  · obtain (rfl | rfl | rfl | rfl) | rfl := hm
    · exact .string _
    · exact .string _
    · exact .bool _
    · exact .bool _
    · exact .bool _

theorem ofJson?_toJson (r : Rule) : ofJson? r.toJson = some r := by
  obtain ⟨pattern, replacement, wholeWord, caseSensitive, isRegex⟩ := r
  cases isRegex <;> rfl

end Rule

namespace RuleList

theorem mapM_ofJson? (rules : RuleList) :
    (rules.map Rule.toJson).mapM Rule.ofJson? = some rules := by
  induction rules with
  | nil => rfl
  | cons r rules ih =>
    rw [List.map_cons, List.mapM_cons, Rule.ofJson?_toJson, ih]
    rfl

theorem ofJson_toJson (rules : RuleList) : ofJson rules.toJson = .ok rules := by
  simp only [ofJson, toJson, Json.member?, List.reverse_singleton, List.lookup_cons,
    beq_self_eq_true, mapM_ofJson?]

theorem readable_toJson (rules : RuleList) : Json.Readable 0 rules.toJson := by
  refine .object (by decide) fun m hm => ?_
  obtain rfl := List.mem_singleton.1 hm
  refine .array (by decide) fun v hv => ?_
  obtain ⟨r, -, rfl⟩ := List.mem_map.1 hv
  exact r.readable_toJson

theorem read?_document (rules : RuleList) : Json.read? rules.document = some rules.toJson :=
  Json.read?_pretty rules.readable_toJson

/-- Reading the document of any rules gives these rules. -/
theorem read_document (rules : RuleList) : read rules.document = .ok rules := by
  simp only [read, read?_document, ofJson_toJson]

end RuleList

end TextMasking
