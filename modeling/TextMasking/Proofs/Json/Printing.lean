import Mathlib.Data.List.TakeWhile
import Mathlib.Tactic.ByContra
import Mathlib.Tactic.SplitIfs
import TextMasking.Json.Printer
import TextMasking.Json.Reader

/-!
# Written values are read back

A value that is written out and read again is the same value (`read?_pretty`), provided that its
numbers are numbers and that it does not open more arrays and objects than may be open at once.
What a value is written as is first cut into the tokens of the value, whatever the indentation
(`tokens?_prettyAt`), and these tokens then build the value on top of the levels that are open
(`foldlM_tokens`).
-/

namespace TextMasking.Json

/-! ### Strings -/

theorem hexValue?_hexDigit : ∀ n < 16, hexValue? (hexDigit n) = some n := by decide

theorem fourHex?_hexDigits {n : Nat} (hn : n < 256) (cs : List Char) :
    fourHex? ('0' :: '0' :: hexDigit (n / 16) :: hexDigit (n % 16) :: cs) = some (n, cs) := by
  have hhigh : hexValue? (hexDigit (n / 16)) = some (n / 16) :=
    hexValue?_hexDigit _ (by omega)
  have hlow : hexValue? (hexDigit (n % 16)) = some (n % 16) :=
    hexValue?_hexDigit _ (by omega)
  have hzero : hexValue? '0' = some 0 := by decide
  have hvalue : ((0 * 16 + 0) * 16 + n / 16) * 16 + n % 16 = n := by omega
  simp only [fourHex?, hzero, hhigh, hlow, Option.bind_eq_bind, Option.bind_some, Option.pure_def,
    hvalue]

/-- A number below those of the halves of a character stands for its character, also when another
escape by number follows. -/
theorem numberEscape?_of_fourHex? {cs rest : List Char} {n : Nat} (h : fourHex? cs = some (n, rest))
    (hn : n < 0xD800) : numberEscape? cs = some (Char.ofNat n, rest) := by
  unfold numberEscape?
  split
  · rename_i high more heq
    obtain ⟨rfl, rfl⟩ : n = high ∧ rest = '\\' :: 'u' :: more := by simpa [h] using heq
    rw [if_neg (by omega), if_pos (.inl hn)]
  · rename_i m more _ heq
    obtain ⟨rfl, rfl⟩ : n = m ∧ rest = more := by simpa [h] using heq
    rw [if_pos (.inl hn)]
  · rename_i heq
    simp [h] at heq

/-- Reading takes an escaped character off as one character of the string. -/
theorem stringBody?_escapeChar (c : Char) (cs : List Char) :
    stringBody? (escapeChar c ++ cs)
      = (stringBody? cs).map fun (s, after) => (c :: s, after) := by
  -- an escape is read by what stands after its backslash
  have hescape {tail : List Char} (h : escape? (tail ++ cs) = some (c, cs)) :
      stringBody? (('\\' :: tail) ++ cs)
        = (stringBody? cs).map fun (s, after) => (c :: s, after) := by
    rw [List.cons_append, stringBody?.eq_def]
    simp only [if_false, if_true, show ('\\' : Char) ≠ '"' by decide]
    split
    · rename_i d more heq
      obtain ⟨rfl, rfl⟩ : c = d ∧ cs = more := by simpa [h] using heq
      rfl
    · rename_i heq
      simp [h] at heq
  have hnamed {n : Nat} (h : c.toNat = n) : Char.ofNat n = c := h ▸ Char.ofNat_toNat c
  unfold escapeChar
  split_ifs with h₁ h₂ h₃ h₄ h₅ h₆ h₇ h₈
  · exact hescape (by simp [escape?, letterEscape?, h₁])
  · exact hescape (by simp [escape?, letterEscape?, h₂])
  · exact hescape (by simp [escape?, letterEscape?, h₃])
  · exact hescape (by simp [escape?, letterEscape?, h₄])
  · exact hescape (by simp [escape?, letterEscape?, h₅])
  · exact hescape (by simpa [escape?, letterEscape?] using hnamed h₆)
  · exact hescape (by simpa [escape?, letterEscape?] using hnamed h₇)
  · refine hescape ?_
    have hfour := fourHex?_hexDigits (n := c.toNat) (by omega) cs
    have hnumber := numberEscape?_of_fourHex? hfour (by omega)
    rw [hnamed rfl] at hnumber
    simpa [escape?] using hnumber
  · rw [List.singleton_append, stringBody?.eq_def]
    simp only [h₁, h₂, h₈, if_false]

theorem stringBody?_flatMap_escapeChar (s rest : List Char) :
    stringBody? (s.flatMap escapeChar ++ '"' :: rest) = some (s, rest) := by
  induction s with
  | nil =>
    rw [stringBody?.eq_def]
    simp
  | cons c s ih =>
    rw [List.flatMap_cons, List.append_assoc, stringBody?_escapeChar, ih]
    rfl

/-! ### Tokens -/

/-- What follows a word and ends it. -/
def EndsWord (rest : List Char) : Prop := ∀ c ∈ rest.head?, isWordChar c = false

theorem EndsWord.nil : EndsWord [] := by simp [EndsWord]

theorem EndsWord.cons {c : Char} (h : isWordChar c = false) (rest : List Char) :
    EndsWord (c :: rest) := by
  simpa [EndsWord] using h

theorem tokens?_space {c : Char} (h : isSpace c = true) (cs : List Char) :
    tokens? (c :: cs) = tokens? cs := by
  rw [tokens?.eq_def]
  simp only [h, if_true]

theorem tokens?_punctuation {c : Char} {t : Token} (h : punctuation? c = some t)
    (cs : List Char) : tokens? (c :: cs) = (tokens? cs).map (t :: ·) := by
  have hspace : isSpace c = false := by
    by_contra hc
    simp only [Bool.not_eq_false, isSpace, Bool.or_eq_true, beq_iff_eq] at hc
    obtain ((rfl | rfl) | rfl) | rfl := hc <;> simp [punctuation?] at h
  have hquote : c ≠ '"' := by
    rintro rfl
    simp [punctuation?] at h
  rw [tokens?.eq_def]
  simp only [hspace, hquote, h, Bool.false_eq_true, if_false]

theorem tokens?_lineStart (depth : Nat) (cs : List Char) :
    tokens? ((lineStart depth).toList ++ cs) = tokens? cs := by
  have hblanks : ∀ n, tokens? (List.replicate n ' ' ++ cs) = tokens? cs := by
    intro n
    induction n with
    | zero => rfl
    | succ n ih => rw [List.replicate_succ, List.cons_append, tokens?_space (by decide), ih]
  have hlist : (lineStart depth).toList ++ cs = '\n' :: (List.replicate (2 * depth) ' ' ++ cs) := by
    simp [lineStart]
  rw [hlist, tokens?_space (by decide), hblanks]

theorem tokens?_quote (s : String) (cs : List Char) :
    tokens? ((quote s).toList ++ cs) = (tokens? cs).map (.string s :: ·) := by
  have hbody := stringBody?_flatMap_escapeChar s.toList cs
  have hlist : (quote s).toList ++ cs = '"' :: (s.toList.flatMap escapeChar ++ '"' :: cs) := by
    simp [quote]
  rw [hlist, tokens?.eq_def]
  simp only [show isSpace '"' = false by decide, Bool.false_eq_true, if_false, if_true]
  split
  · rename_i heq
    rw [hbody, Option.some.injEq, Prod.mk.injEq] at heq
    obtain ⟨rfl, rfl⟩ := heq
    rw [String.ofList_toList]
  · rename_i heq
    rw [hbody] at heq
    simp at heq

/-- A word is one token where what follows ends it. -/
theorem tokens?_word {w : List Char} {t : Token} (hw : w ≠ []) (hchars : w.all isWordChar = true)
    (ht : word? w = some t) {rest : List Char} (hrest : EndsWord rest) :
    tokens? (w ++ rest) = (tokens? rest).map (t :: ·) := by
  obtain ⟨c, w, rfl⟩ := List.exists_cons_of_ne_nil hw
  rw [List.all_cons, Bool.and_eq_true, List.all_eq_true] at hchars
  obtain ⟨hc, hword⟩ := hchars
  have hspace : isSpace c = false := by
    by_contra hs
    simp only [Bool.not_eq_false, isSpace, Bool.or_eq_true, beq_iff_eq] at hs
    obtain ((rfl | rfl) | rfl) | rfl := hs <;> exact absurd hc (by decide)
  have hquote : c ≠ '"' := by
    rintro rfl
    exact absurd hc (by decide)
  have hpunctuation : punctuation? c = none := by
    unfold punctuation?
    split <;> first | rfl | exact absurd hc (by decide)
  have htake : (w ++ rest).takeWhile isWordChar = w := by
    rw [List.takeWhile_append_of_pos hword]
    cases rest with
    | nil => simp
    | cons d rest => simp [hrest d (by simp)]
  have hdrop : (w ++ rest).dropWhile isWordChar = rest := by
    rw [List.dropWhile_append_of_pos hword]
    cases rest with
    | nil => simp
    | cons d rest => simp [hrest d (by simp)]
  rw [List.cons_append, tokens?.eq_def]
  simp only [hspace, hquote, hpunctuation, htake, hdrop, ht, Bool.false_eq_true, if_false]
  cases tokens? rest <;> rfl

/-! ### Numbers -/

theorem isWordChar_of_isDigit {c : Char} (h : c.isDigit) : isWordChar c := by
  simp [isWordChar, Char.isAlphanum, h]

theorem isWordChar_of_all_isDigit {digits : List Char} {n : Nat}
    (h : (if digits.isEmpty || !digits.all Char.isDigit then none
      else some (digitsValue 0 digits)) = some n) : ∀ c ∈ digits, isWordChar c := by
  intro c hc
  split at h
  · simp at h
  · rename_i hall
    simp only [Bool.or_eq_true, Bool.not_eq_true', not_or, Bool.not_eq_false] at hall
    exact isWordChar_of_isDigit (List.all_eq_true.1 hall.2 c hc)

theorem isWordChar_of_exponent? {cs : List Char} {e : Int} (h : Numeral.exponent? cs = some e) :
    ∀ c ∈ cs, isWordChar c := by
  unfold Numeral.exponent? at h
  simp only at h
  split at h
  · obtain ⟨_, hn, -⟩ := Option.map_eq_some_iff.1 h
    obtain ⟨n, hn, -⟩ := Option.bind_eq_some_iff.1 hn
    exact List.forall_mem_cons.2 ⟨by decide, isWordChar_of_all_isDigit hn⟩
  · obtain ⟨n, hn, -⟩ := Option.map_eq_some_iff.1 h
    exact List.forall_mem_cons.2 ⟨by decide, isWordChar_of_all_isDigit hn⟩
  · obtain ⟨n, hn, -⟩ := Option.map_eq_some_iff.1 h
    exact isWordChar_of_all_isDigit hn

theorem isWordChar_of_dropWhile {cs : List Char}
    (h : ∀ c ∈ cs.dropWhile Char.isDigit, isWordChar c) : ∀ c ∈ cs, isWordChar c := by
  intro c hc
  rw [← List.takeWhile_append_dropWhile (p := Char.isDigit) (l := cs), List.mem_append] at hc
  obtain hc | hc := hc
  · exact isWordChar_of_isDigit (List.mem_takeWhile_imp hc)
  · exact h c hc

theorem isWordChar_of_tail {cs : List Char} {d : Char} (hd : isWordChar d)
    (hhead : cs.head? = some d) (h : ∀ c ∈ cs.tail, isWordChar c) : ∀ c ∈ cs, isWordChar c := by
  obtain ⟨rest, rfl⟩ := List.head?_eq_some_iff.1 hhead
  exact List.forall_mem_cons.2 ⟨hd, h⟩

/-- All characters of a number can stand in a word. -/
theorem isWordChar_of_read? {cs : List Char} {x : Numeral} (h : Numeral.read? cs = some x) :
    ∀ c ∈ cs, isWordChar c := by
  unfold Numeral.read? at h
  simp only [Option.bind_eq_bind, Option.bind_none, Option.pure_def] at h
  generalize hunsigned : (if cs.head? = some '-' then cs.tail else cs) = unsigned at h
  generalize hafter : unsigned.dropWhile Char.isDigit = afterWhole at h
  generalize hrest : (if afterWhole.head? = some '.' then afterWhole.tail.dropWhile Char.isDigit
    else afterWhole) = rest at h
  generalize (if afterWhole.head? = some '.' then afterWhole.tail.takeWhile Char.isDigit
    else []) = fraction at h
  have hexponent : ∀ c ∈ rest, isWordChar c := by
    split at h
    · cases h
    split at h
    · cases h
    cases rest with
    | nil => simp
    | cons mark digits =>
      simp only at h
      split at h
      · rename_i hmark
        obtain ⟨e, he, -⟩ := Option.bind_eq_some_iff.1 h
        refine List.forall_mem_cons.2 ⟨?_, isWordChar_of_exponent? he⟩
        obtain rfl | rfl := hmark <;> decide
      · cases h
  have hfraction : ∀ c ∈ afterWhole, isWordChar c := by
    split at hrest
    · rename_i hpoint
      exact isWordChar_of_tail (by decide) hpoint (isWordChar_of_dropWhile (hrest ▸ hexponent))
    · exact hrest ▸ hexponent
  have hwhole : ∀ c ∈ unsigned, isWordChar c := isWordChar_of_dropWhile (hafter ▸ hfraction)
  split at hunsigned
  · rename_i hsign
    exact isWordChar_of_tail (by decide) hsign (hunsigned ▸ hwhole)
  · exact hunsigned ▸ hwhole

theorem word?_of_isNumber {cs : List Char} (h : isNumber cs) :
    word? cs = some (.number (String.ofList cs)) := by
  have hnull : cs ≠ "null".toList := by
    rintro rfl
    exact absurd h (by decide)
  have htrue : cs ≠ "true".toList := by
    rintro rfl
    exact absurd h (by decide)
  have hfalse : cs ≠ "false".toList := by
    rintro rfl
    exact absurd h (by decide)
  simp only [word?, hnull, htrue, hfalse, h, if_false, if_true]

/-- A number is one token where what follows ends it. -/
theorem tokens?_number {s : String} (h : isNumber s.toList) {rest : List Char}
    (hrest : EndsWord rest) :
    tokens? (s.toList ++ rest) = (tokens? rest).map (.number s :: ·) := by
  obtain ⟨x, hx, -⟩ := (Option.any_eq_true _ _).1 h
  have hempty : s.toList ≠ [] := by
    intro hnil
    rw [hnil] at h
    exact absurd h (by decide)
  have hword := word?_of_isNumber h
  rw [String.ofList_toList] at hword
  exact tokens?_word hempty (List.all_eq_true.mpr (isWordChar_of_read? hx)) hword hrest

/-! ### Values that can be read -/

/-- Values that can be read inside `depth` open arrays and objects: what they hold as numbers are
numbers, and no more arrays and objects than allowed are open at once. -/
inductive Readable : Nat → Json → Prop
  | null {depth : Nat} : Readable depth .null
  | bool {depth : Nat} (b : Bool) : Readable depth (.bool b)
  | number {depth : Nat} {s : String} (h : isNumber s.toList) : Readable depth (.number s)
  | string {depth : Nat} (s : String) : Readable depth (.string s)
  | array {depth : Nat} {items : List Json} (hdepth : depth < maxDepth)
      (h : ∀ v ∈ items, Readable (depth + 1) v) : Readable depth (.array items)
  | object {depth : Nat} {members : List (String × Json)} (hdepth : depth < maxDepth)
      (h : ∀ m ∈ members, Readable (depth + 1) m.2) : Readable depth (.object members)

mutual

/-- The tokens a value is written with. -/
def tokens : Json → List Token
  | .null => [.null]
  | .bool b => [.bool b]
  | .number s => [.number s]
  | .string s => [.string s]
  | .array [] => [.openArray, .closeArray]
  | .array (v :: rest) => .openArray :: tokens v ++ itemTokens rest ++ [.closeArray]
  | .object [] => [.openObject, .closeObject]
  | .object ((name, v) :: rest) =>
    .openObject :: .string name :: .colon :: tokens v ++ memberTokens rest ++ [.closeObject]

/-- The tokens of the items after the first one. -/
def itemTokens : List Json → List Token
  | [] => []
  | v :: rest => .comma :: tokens v ++ itemTokens rest

/-- The tokens of the members after the first one. -/
def memberTokens : List (String × Json) → List Token
  | [] => []
  | (name, v) :: rest => .comma :: .string name :: .colon :: tokens v ++ memberTokens rest

end

/-! ### From the text to the tokens -/

theorem endsWord_lineStart (depth : Nat) (cs : List Char) :
    EndsWord ((lineStart depth).toList ++ cs) := by
  simpa [lineStart] using EndsWord.cons (by decide) _

/-- The text of a value is cut into the tokens of the value. -/
def CutsInto (v : Json) : Prop :=
  ∀ (depth : Nat) {rest : List Char}, EndsWord rest →
    tokens? ((prettyAt depth v).toList ++ rest) = (tokens? rest).map (tokens v ++ ·)

theorem endsWord_prettyItems (depth : Nat) (items : List Json) {rest : List Char}
    (h : EndsWord rest) : EndsWord ((prettyItems depth items).toList ++ rest) := by
  cases items with
  | nil => simpa [prettyItems] using h
  | cons v items => simpa [prettyItems] using EndsWord.cons (by decide) _

theorem endsWord_prettyMembers (depth : Nat) (members : List (String × Json)) {rest : List Char}
    (h : EndsWord rest) : EndsWord ((prettyMembers depth members).toList ++ rest) := by
  cases members with
  | nil => simpa [prettyMembers] using h
  | cons m members => simpa [prettyMembers] using EndsWord.cons (by decide) _

theorem tokens?_prettyItems {items : List Json} (h : ∀ v ∈ items, CutsInto v) (depth : Nat)
    {rest : List Char} (hrest : EndsWord rest) :
    tokens? ((prettyItems depth items).toList ++ rest)
      = (tokens? rest).map (itemTokens items ++ ·) := by
  induction items with
  | nil => simp [prettyItems, itemTokens]
  | cons v items ih =>
    have hfirst := h v (by simp) depth (endsWord_prettyItems depth items hrest)
    have hothers := ih fun w hw => h w (List.mem_cons_of_mem _ hw)
    simp only [prettyItems, String.toList_append, List.append_assoc, itemTokens]
    rw [show ",".toList = [','] from rfl, List.singleton_append,
      tokens?_punctuation (t := .comma) rfl, tokens?_lineStart, hfirst, hothers]
    simp [Option.map_map, Function.comp_def]

theorem tokens?_member {v : Json} (h : CutsInto v) (name : String) (depth : Nat)
    {rest : List Char} (hrest : EndsWord rest) :
    tokens? ((quote name).toList ++ (": ".toList ++ ((prettyAt depth v).toList ++ rest)))
      = (tokens? rest).map (.string name :: .colon :: tokens v ++ ·) := by
  rw [tokens?_quote, show ": ".toList = [':', ' '] from rfl, List.cons_append,
    List.singleton_append, tokens?_punctuation (t := .colon) rfl, tokens?_space (by decide),
    h depth hrest]
  simp [Option.map_map, Function.comp_def]

theorem tokens?_prettyMembers {members : List (String × Json)} (h : ∀ m ∈ members, CutsInto m.2)
    (depth : Nat) {rest : List Char} (hrest : EndsWord rest) :
    tokens? ((prettyMembers depth members).toList ++ rest)
      = (tokens? rest).map (memberTokens members ++ ·) := by
  induction members with
  | nil => simp [prettyMembers, memberTokens]
  | cons m members ih =>
    obtain ⟨name, v⟩ := m
    have hfirst := tokens?_member (h (name, v) (by simp)) name depth
      (endsWord_prettyMembers depth members hrest)
    have hothers := ih fun m hm => h m (List.mem_cons_of_mem _ hm)
    simp only [prettyMembers, String.toList_append, List.append_assoc, memberTokens]
    rw [show ",".toList = [','] from rfl, List.singleton_append,
      tokens?_punctuation (t := .comma) rfl, tokens?_lineStart, hfirst, hothers]
    simp [Option.map_map, Function.comp_def]

theorem CutsInto.array {items : List Json} (h : ∀ v ∈ items, CutsInto v) :
    CutsInto (.array items) := by
  intro depth rest _
  cases items with
  | nil =>
    rw [prettyAt, tokens, show "[]".toList = ['[', ']'] from rfl, List.cons_append,
      List.singleton_append, tokens?_punctuation (t := .openArray) rfl,
      tokens?_punctuation (t := .closeArray) rfl]
    simp [Option.map_map, Function.comp_def]
  | cons v items =>
    have hend : EndsWord ((lineStart depth).toList ++ (']' :: rest)) := endsWord_lineStart _ _
    have hfirst := h v (by simp) (depth + 1) (endsWord_prettyItems (depth + 1) items hend)
    have hothers :=
      tokens?_prettyItems (fun w hw => h w (List.mem_cons_of_mem _ hw)) (depth + 1) hend
    simp only [prettyAt, String.toList_append, List.append_assoc, tokens]
    rw [show "[".toList = ['['] from rfl, show "]".toList = [']'] from rfl,
      List.singleton_append, List.singleton_append,
      tokens?_punctuation (t := .openArray) rfl, tokens?_lineStart, hfirst, hothers,
      tokens?_lineStart, tokens?_punctuation (t := .closeArray) rfl]
    simp [Option.map_map, Function.comp_def]

theorem CutsInto.object {members : List (String × Json)} (h : ∀ m ∈ members, CutsInto m.2) :
    CutsInto (.object members) := by
  intro depth rest _
  cases members with
  | nil =>
    rw [prettyAt, tokens, show "\x7b\x7d".toList = ['\x7b', '\x7d'] from rfl, List.cons_append,
      List.singleton_append, tokens?_punctuation (t := .openObject) rfl,
      tokens?_punctuation (t := .closeObject) rfl]
    simp [Option.map_map, Function.comp_def]
  | cons m members =>
    obtain ⟨name, v⟩ := m
    have hend : EndsWord ((lineStart depth).toList ++ ('\x7d' :: rest)) := endsWord_lineStart _ _
    have hfirst := tokens?_member (h (name, v) (by simp)) name (depth + 1)
      (endsWord_prettyMembers (depth + 1) members hend)
    have hothers :=
      tokens?_prettyMembers (fun m hm => h m (List.mem_cons_of_mem _ hm)) (depth + 1) hend
    simp only [prettyAt, String.toList_append, List.append_assoc, tokens]
    rw [show "\x7b".toList = ['\x7b'] from rfl, show "\x7d".toList = ['\x7d'] from rfl,
      List.singleton_append, List.singleton_append,
      tokens?_punctuation (t := .openObject) rfl, tokens?_lineStart, hfirst, hothers,
      tokens?_lineStart, tokens?_punctuation (t := .closeObject) rfl]
    simp [Option.map_map, Function.comp_def]

/-- The text of a value is cut into the tokens of the value, at any indentation and before anything
that ends a word. -/
theorem tokens?_prettyAt {levels : Nat} {v : Json} (h : Readable levels v) : CutsInto v := by
  induction h with
  | null =>
    intro depth rest hrest
    exact tokens?_word (w := "null".toList) (by decide) (by decide) (by decide) hrest
  | bool b =>
    intro depth rest hrest
    cases b with
    | true => exact tokens?_word (w := "true".toList) (by decide) (by decide) (by decide) hrest
    | false => exact tokens?_word (w := "false".toList) (by decide) (by decide) (by decide) hrest
  | number hs =>
    intro depth rest hrest
    exact tokens?_number hs hrest
  | string s =>
    intro depth rest _
    exact tokens?_quote s rest
  | array _ _ ih => exact .array ih
  | object _ _ ih => exact .object ih

/-! ### From the tokens to the value -/

namespace Reading

theorem foldlM_cons {r r' : Reading} {t : Token} (h : step r t = some r') (ts : List Token) :
    (t :: ts).foldlM step r = ts.foldlM step r' := by
  simp [h]

theorem foldlM_append {r r' : Reading} {ts : List Token} (h : ts.foldlM step r = some r')
    (us : List Token) : (ts ++ us).foldlM step r = us.foldlM step r' := by
  simp [h]

/-- Reading a first item goes on as if a value were due, unless the array ends here. -/
theorem step_firstItem {levels : List Level} {t : Token} (h : t ≠ .closeArray) :
    step ⟨levels, .firstItem⟩ t = step ⟨.array [] :: levels, .value⟩ t := by
  cases t <;> first | rfl | exact absurd rfl h

end Reading

theorem tokens_eq_cons (v : Json) : ∃ t ts, tokens v = t :: ts ∧ t ≠ .closeArray := by
  cases v with
  | array items => cases items <;> simp [tokens]
  | object members => cases members <;> simp [tokens]
  | _ => simp [tokens]

/-- The tokens of a value, where a value is due, lead to the value. -/
def Builds (levels : List Level) (v : Json) : Prop :=
  (tokens v).foldlM Reading.step ⟨levels, .value⟩ = some ⟨levels, .after v⟩

theorem Builds.first {levels : List Level} {v : Json} (h : Builds (.array [] :: levels) v) :
    (tokens v).foldlM Reading.step ⟨levels, .firstItem⟩
      = some ⟨.array [] :: levels, .after v⟩ := by
  obtain ⟨t, ts, htokens, ht⟩ := tokens_eq_cons v
  rw [Builds, htokens, List.foldlM_cons] at h
  rw [htokens, List.foldlM_cons, Reading.step_firstItem ht, h]

/-- The items that are left come after those that are there, and then the array is closed. -/
theorem foldlM_itemTokens {levels : List Level} {rest : List Json}
    (h : ∀ w ∈ rest, ∀ items, Builds (.array items :: levels) w) (items : List Json) (v : Json) :
    (itemTokens rest ++ [Token.closeArray]).foldlM Reading.step ⟨.array items :: levels, .after v⟩
      = some ⟨levels, .after (.array (items.reverse ++ v :: rest))⟩ := by
  induction rest generalizing items v with
  | nil =>
    rw [itemTokens, List.nil_append, Reading.foldlM_cons rfl]
    simp
  | cons w rest ih =>
    have hw : Builds (.array (v :: items) :: levels) w := h w (by simp) (v :: items)
    have hothers := ih (fun u hu => h u (List.mem_cons_of_mem _ hu)) (v :: items) w
    simp only [itemTokens, List.cons_append, List.append_assoc]
    rw [Reading.foldlM_cons rfl, Reading.foldlM_append hw, hothers]
    simp

/-- The members that are left come after those that are there, and then the object is closed. -/
theorem foldlM_memberTokens {levels : List Level} {rest : List (String × Json)}
    (h : ∀ m ∈ rest, ∀ members name, Builds (.object members name :: levels) m.2)
    (members : List (String × Json)) (name : String) (v : Json) :
    (memberTokens rest ++ [Token.closeObject]).foldlM Reading.step
        ⟨.object members name :: levels, .after v⟩
      = some ⟨levels, .after (.object (members.reverse ++ (name, v) :: rest))⟩ := by
  induction rest generalizing members name v with
  | nil =>
    rw [memberTokens, List.nil_append, Reading.foldlM_cons rfl]
    simp
  | cons m rest ih =>
    obtain ⟨other, w⟩ := m
    have hw : Builds (.object ((name, v) :: members) other :: levels) w :=
      h (other, w) (by simp) ((name, v) :: members) other
    have hothers := ih (fun m hm => h m (List.mem_cons_of_mem _ hm)) ((name, v) :: members) other w
    simp only [memberTokens, List.cons_append, List.append_assoc]
    rw [Reading.foldlM_cons rfl, Reading.foldlM_cons rfl, Reading.foldlM_cons rfl,
      Reading.foldlM_append hw, hothers]
    simp

/-- The tokens of a value build the value inside the levels that are open. -/
theorem foldlM_tokens {depth : Nat} {v : Json} (h : Readable depth v) {levels : List Level}
    (hlevels : levels.length = depth) : Builds levels v := by
  induction h generalizing levels with
  | null | bool | number | string => rfl
  | @array depth items hdepth _ ih =>
    have hopen : Reading.step ⟨levels, .value⟩ .openArray = some ⟨levels, .firstItem⟩ := by
      simp [Reading.step, Reading.beginValue, hlevels, hdepth]
    have hitem : ∀ w ∈ items, ∀ before, Builds (.array before :: levels) w :=
      fun w hw before => ih w hw (by simp [hlevels])
    rw [Builds]
    cases items with
    | nil =>
      rw [tokens, Reading.foldlM_cons hopen, Reading.foldlM_cons rfl]
      rfl
    | cons v items =>
      have hfirst := (hitem v (by simp) []).first
      have hothers := foldlM_itemTokens (fun w hw => hitem w (List.mem_cons_of_mem _ hw)) [] v
      simp only [tokens, List.cons_append, List.append_assoc]
      rw [Reading.foldlM_cons hopen, Reading.foldlM_append hfirst, hothers]
      rfl
  | @object depth members hdepth _ ih =>
    have hopen : Reading.step ⟨levels, .value⟩ .openObject = some ⟨levels, .firstName⟩ := by
      simp [Reading.step, Reading.beginValue, hlevels, hdepth]
    have hmember : ∀ m ∈ members, ∀ before name, Builds (.object before name :: levels) m.2 :=
      fun m hm before name => ih m hm (by simp [hlevels])
    rw [Builds]
    cases members with
    | nil =>
      rw [tokens, Reading.foldlM_cons hopen, Reading.foldlM_cons rfl]
      rfl
    | cons m members =>
      obtain ⟨name, v⟩ := m
      have hfirst := hmember (name, v) (by simp) [] name
      have hothers :=
        foldlM_memberTokens (fun m hm => hmember m (List.mem_cons_of_mem _ hm)) [] name v
      simp only [tokens, List.cons_append, List.append_assoc]
      rw [Reading.foldlM_cons hopen, Reading.foldlM_cons rfl, Reading.foldlM_cons rfl,
        Reading.foldlM_append hfirst, hothers]
      rfl

/-- A value that is written out is read back as it was. -/
theorem read?_pretty {v : Json} (h : Readable 0 v) : read? v.pretty = some v := by
  have hcut := tokens?_prettyAt h 0 EndsWord.nil
  have hnil : tokens? [] = some [] := by rw [tokens?.eq_def]
  rw [hnil, List.append_nil] at hcut
  have hbuild : (tokens v).foldlM Reading.step Reading.start = some ⟨[], .after v⟩ :=
    foldlM_tokens h rfl
  simp only [read?, pretty, hcut, Option.map_some, List.append_nil, ofTokens?, hbuild,
    Option.bind_eq_bind, Option.bind_some, Reading.value?]

end TextMasking.Json
