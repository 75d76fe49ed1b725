import Mathlib.Data.List.Forall2
import TextMasking.Proofs.Json.Grammar
import TextMasking.Rules.Document

/-!
# The texts that are rule documents

A text is a rule document if it is the JSON text of an object whose last member `rules` is an array
of entries (`RuleList.IsDocument`).  An entry is an object or an array of at most five values; what
it says has the type of what it is said of, and what it does not say is empty or false
(`Rule.IsEntry`).  Exactly these texts are read, with one rule for each entry in order, and every
other text is refused for what is wrong with it (`RuleList.read_eq_iff`).
-/

namespace TextMasking

namespace Json

/-- What the last member of a name holds, if there is one. -/
inductive LastMember (members : List (String × Json)) (name : String) : Option Json → Prop
  | missing (h : ∀ m ∈ members, m.1 ≠ name) : LastMember members name none
  | last {before after : List (String × Json)} {v : Json}
      (h : members = before ++ (name, v) :: after) (hafter : ∀ m ∈ after, m.1 ≠ name) :
      LastMember members name (some v)

/-- Members are looked up from the end. -/
theorem member?_eq_iff {members : List (String × Json)} {name : String} {o : Option Json} :
    member? members name = o ↔ LastMember members name o := by
  cases o with
  | none =>
    rw [member?, List.lookup_eq_none_iff]
    constructor
    · intro h
      exact .missing fun m hm e => bne_iff_ne.1 (h m (List.mem_reverse.2 hm)) e.symm
    · rintro ⟨h⟩ m hm
      exact bne_iff_ne.2 (h m (List.mem_reverse.1 hm)).symm
  | some v =>
    rw [member?, List.lookup_eq_some_iff]
    constructor
    · rintro ⟨after, before, h, hafter⟩
      have hmembers : members = before.reverse ++ (name, v) :: after.reverse := by
        rw [← members.reverse_reverse, h]
        simp
      exact .last hmembers fun m hm e => bne_iff_ne.1 (hafter m (List.mem_reverse.1 hm)) e.symm
    · rintro (_ | ⟨rfl, hafter⟩)
      rename_i before after
      refine ⟨after.reverse, before.reverse, by simp, fun m hm => ?_⟩
      exact bne_iff_ne.2 (hafter m (List.mem_reverse.1 hm)).symm

end Json

namespace Rule

open Json (LastMember)

/-- A text that is said, or is missing. -/
inductive TextIs : Option Json → String → Prop
  | missing : TextIs none ""
  | said (s : String) : TextIs (some (.string s)) s

/-- A flag that is said, or is missing. -/
inductive FlagIs : Option Json → Bool → Prop
  | missing : FlagIs none false
  | said (b : Bool) : FlagIs (some (.bool b)) b

theorem textOf?_eq_some_iff {o : Option Json} {s : String} :
    textOf? o = some s ↔ TextIs o s := by
  constructor
  · intro h
    unfold textOf? at h
    split at h <;> cases h
    · exact .missing
    · exact .said _
  · rintro (_ | _) <;> rfl

theorem flagOf?_eq_some_iff {o : Option Json} {b : Bool} :
    flagOf? o = some b ↔ FlagIs o b := by
  constructor
  · intro h
    unfold flagOf? at h
    split at h <;> cases h
    · exact .missing
    · exact .said _
  · rintro (_ | _) <;> rfl

/-- The values of an entry are those of a rule. -/
structure Says (pattern replacement wholeWord caseSensitive isRegex : Option Json) (r : Rule) :
    Prop where
  pattern : TextIs pattern r.pattern
  replacement : TextIs replacement r.replacement
  wholeWord : FlagIs wholeWord r.wholeWord
  caseSensitive : FlagIs caseSensitive r.caseSensitive
  isRegex : FlagIs isRegex r.isRegex

/-- An entry says a rule by the names of its members, or by the places of its values. -/
inductive IsEntry : Json → Rule → Prop
  | object {members : List (String × Json)} {r : Rule} {p q w c x : Option Json}
      (hp : LastMember members "pattern" p) (hq : LastMember members "replacement" q)
      (hw : LastMember members "wholeWord" w) (hc : LastMember members "caseSensitive" c)
      (hx : LastMember members "isRegex" x) (h : Says p q w c x r) : IsEntry (.object members) r
  | array {items : List Json} {r : Rule} (hlength : items.length ≤ 5)
      (h : Says items[0]? items[1]? items[2]? items[3]? items[4]? r) : IsEntry (.array items) r

theorem ofValues?_eq_some_iff {value : String → Nat → Option Json} {r : Rule} :
    ofValues? value = some r ↔
      Says (value "pattern" 0) (value "replacement" 1) (value "wholeWord" 2)
        (value "caseSensitive" 3) (value "isRegex" 4) r := by
  rw [ofValues?]
  simp only [Option.bind_eq_bind, Option.bind_eq_some_iff, textOf?_eq_some_iff,
    flagOf?_eq_some_iff, Option.pure_def, Option.some.injEq]
  constructor
  · rintro ⟨p, hp, q, hq, w, hw, c, hc, x, hx, rfl⟩
    exact ⟨hp, hq, hw, hc, hx⟩
  · rintro ⟨hp, hq, hw, hc, hx⟩
    exact ⟨_, hp, _, hq, _, hw, _, hc, _, hx, rfl⟩

/-- **An entry is read** as the rule that it says. -/
theorem ofJson?_eq_some_iff {v : Json} {r : Rule} : ofJson? v = some r ↔ IsEntry v r := by
  constructor
  · intro h
    cases v with
    | object members =>
      have hlast (name : String) : LastMember members name (Json.member? members name) :=
        Json.member?_eq_iff.1 rfl
      rw [ofJson?, ofValues?_eq_some_iff] at h
      exact .object (hlast _) (hlast _) (hlast _) (hlast _) (hlast _) h
    | array items =>
      rw [ofJson?] at h
      split_ifs at h with hlength
      exact .array hlength (ofValues?_eq_some_iff.1 h)
    | _ => cases h
  · rintro (⟨hp, hq, hw, hc, hx, h⟩ | ⟨hlength, h⟩)
    · rw [ofJson?, ofValues?_eq_some_iff]
      rwa [Json.member?_eq_iff.2 hp, Json.member?_eq_iff.2 hq, Json.member?_eq_iff.2 hw,
        Json.member?_eq_iff.2 hc, Json.member?_eq_iff.2 hx]
    · rwa [ofJson?, if_pos hlength, ofValues?_eq_some_iff]

/-- Entries are read one by one. -/
theorem mapM_ofJson?_eq_some_iff {entries : List Json} {rules : List Rule} :
    entries.mapM ofJson? = some rules ↔ List.Forall₂ IsEntry entries rules := by
  induction entries generalizing rules with
  | nil => simp [eq_comm]
  | cons v entries ih =>
    simp only [List.mapM_cons, Option.bind_eq_bind, Option.bind_eq_some_iff, ofJson?_eq_some_iff,
      ih, Option.pure_def, Option.some.injEq, List.forall₂_cons_left_iff, eq_comm (b := rules)]
    grind

/-- Entries are refused if one of them says no rule. -/
theorem mapM_ofJson?_eq_none_iff {entries : List Json} :
    entries.mapM ofJson? = none ↔ ∃ v ∈ entries, ∀ r, ¬IsEntry v r := by
  induction entries with
  | nil => simp
  | cons v entries ih =>
    rw [List.exists_mem_cons_iff, ← ih, List.mapM_cons]
    cases h : ofJson? v with
    | none =>
      have hv : ∀ r, ¬IsEntry v r := fun r hr => by
        rw [ofJson?_eq_some_iff.2 hr] at h
        cases h
      exact iff_of_true rfl (.inl hv)
    | some r =>
      have hv : ¬∀ r, ¬IsEntry v r := fun hno => hno r (ofJson?_eq_some_iff.1 h)
      cases entries.mapM ofJson? <;> simp [hv]

end Rule

namespace RuleList

open Json (LastMember)

/-- The text is the JSON text of the value. -/
def IsJson (text : String) (v : Json) : Prop :=
  Json.tokens? text.toList = some (Json.tokens v) ∧ Json.Readable 0 v

/-- The value is an object with an array of entries. -/
inductive HasEntries : Json → List Json → Prop
  | object {members : List (String × Json)} {entries : List Json}
      (h : LastMember members "rules" (some (.array entries))) :
      HasEntries (.object members) entries

/-- The text is a document of the rules. -/
def IsDocument (text : String) (rules : RuleList) : Prop :=
  ∃ v entries, IsJson text v ∧ HasEntries v entries ∧ List.Forall₂ Rule.IsEntry entries rules

/-- Why the text is not a rule document: it is no JSON text, or it has no array of entries, or one
of its entries says no rule. -/
inductive IsRefused (text : String) : ImportError → Prop
  | notJson (h : ∀ v, ¬IsJson text v) : IsRefused text .notJson
  | noRules {v : Json} (h : IsJson text v) (hno : ∀ entries, ¬HasEntries v entries) :
      IsRefused text .noRules
  | badEntry {v e : Json} {entries : List Json} (h : IsJson text v)
      (hentries : HasEntries v entries) (he : e ∈ entries) (hno : ∀ r, ¬Rule.IsEntry e r) :
      IsRefused text .badEntry

theorem hasEntries_iff {members : List (String × Json)} {entries : List Json} :
    HasEntries (.object members) entries ↔
      Json.member? members "rules" = some (.array entries) := by
  rw [Json.member?_eq_iff]
  exact ⟨fun ⟨h⟩ => h, .object⟩

/-- What a text is tells what it is read as. -/
theorem read_of_isDocument {text : String} {rules : RuleList} (h : IsDocument text rules) :
    read text = .ok rules := by
  obtain ⟨v, entries, hjson, ⟨hmember⟩, hrules⟩ := h
  rw [read, Json.read?_eq_some_iff.2 hjson]
  dsimp only
  rw [ofJson, Json.member?_eq_iff.2 hmember]
  dsimp only
  rw [Rule.mapM_ofJson?_eq_some_iff.2 hrules]

/-- A text that is no rule document is refused for what is wrong with it first. -/
theorem read_of_isRefused {text : String} {e : ImportError} (h : IsRefused text e) :
    read text = .error e := by
  rw [read]
  cases h with
  | notJson h =>
    rw [Option.eq_none_iff_forall_ne_some.2 fun v hv => h v (Json.read?_eq_some_iff.1 hv)]
  | @noRules v h hno =>
    rw [Json.read?_eq_some_iff.2 h]
    cases v with
    | object members =>
      dsimp only
      rw [ofJson]
      split
      · exact absurd (hasEntries_iff.2 ‹_›) (hno _)
      · rfl
    | _ => rfl
  | @badEntry v e entries h hentries he hno =>
    obtain ⟨hmember⟩ := hentries
    rw [Json.read?_eq_some_iff.2 h]
    dsimp only
    rw [ofJson, Json.member?_eq_iff.2 hmember]
    dsimp only
    rw [Rule.mapM_ofJson?_eq_none_iff.2 ⟨e, he, hno⟩]

/-- A text is a rule document, or something is wrong with it. -/
theorem isDocument_or_isRefused (text : String) :
    (∃ rules, IsDocument text rules) ∨ ∃ e, IsRefused text e := by
  by_cases hjson : ∃ v, IsJson text v
  · obtain ⟨v, hjson⟩ := hjson
    by_cases hentries : ∃ entries, HasEntries v entries
    · obtain ⟨entries, hentries⟩ := hentries
      cases hrules : entries.mapM Rule.ofJson? with
      | some rules =>
        exact .inl ⟨rules, v, entries, hjson, hentries, Rule.mapM_ofJson?_eq_some_iff.1 hrules⟩
      | none =>
        obtain ⟨e, he, hno⟩ := Rule.mapM_ofJson?_eq_none_iff.1 hrules
        exact .inr ⟨_, .badEntry hjson hentries he hno⟩
    · exact .inr ⟨_, .noRules hjson (not_exists.1 hentries)⟩
  · exact .inr ⟨_, .notJson (not_exists.1 hjson)⟩

/-- **A text is read as rules exactly if it is a document of them,** and every other text is refused
for what is wrong with it. -/
theorem read_eq_iff (text : String) :
    (∀ rules, read text = .ok rules ↔ IsDocument text rules) ∧
      (∀ e, read text = .error e ↔ IsRefused text e) ∧
      ((∃ e, read text = .error e) ↔ ∀ rules, ¬IsDocument text rules) := by
  rcases isDocument_or_isRefused text with ⟨rules, h⟩ | ⟨e, h⟩
  · have hread := read_of_isDocument h
    refine ⟨fun rules' => ⟨fun hr => ?_, read_of_isDocument⟩,
      fun e => ⟨fun he => ?_, read_of_isRefused⟩, ⟨fun ⟨e, he⟩ => ?_, fun hno => absurd h (hno _)⟩⟩
    · cases hread.symm.trans hr
      exact h
    · cases hread.symm.trans he
    · cases hread.symm.trans he
  · have hread := read_of_isRefused h
    refine ⟨fun rules => ⟨fun hr => ?_, read_of_isDocument⟩,
      fun e' => ⟨fun he => ?_, read_of_isRefused⟩, ⟨fun _ rules hd => ?_, fun _ => ⟨e, hread⟩⟩⟩
    · cases hread.symm.trans hr
    · cases hread.symm.trans he
      exact h
    · cases hread.symm.trans (read_of_isDocument hd)

/-- An entry by places and one by names, where the last member of a name counts. -/
example :
    read "\x7b\"rules\":[[\"a\",\"b\",true],\x7b\"x\":[],\"pattern\":1,\"pattern\":\"c\"\x7d]\x7d" =
      .ok [⟨"a", "b", true, false, false⟩, ⟨"c", "", false, false, false⟩] := by
  decide +kernel

end RuleList

end TextMasking
