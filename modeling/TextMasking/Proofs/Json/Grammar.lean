import TextMasking.Proofs.Json.Printing

/-!
# What can be read

A text is read as a value exactly if its tokens are those that the value is written with
(`read?_eq_some_iff`); no more arrays and objects may be open at once than allowed, and numbers are
numbers.  Where a reading stands tells which tokens it has gone through (`Reading.spent`): each step
adds its token to them (`Reading.spent_step`), and what has been read so far can be read
(`Reading.Holds`).
-/

namespace TextMasking.Json

/-! ### The tokens of a text -/

/-- A number is one. -/
def Token.Sound : Token → Prop
  | .number s => isNumber s.toList
  | _ => True

theorem Token.sound_of_punctuation? {c : Char} {t : Token} (h : punctuation? c = some t) :
    t.Sound := by
  unfold punctuation? at h
  split at h <;> cases h <;> trivial

theorem Token.sound_of_word? {w : List Char} {t : Token} (h : word? w = some t) : t.Sound := by
  unfold word? at h
  split_ifs at h with _ _ _ hnumber <;> cases h
  · trivial
  · trivial
  · trivial
  · rwa [Sound, String.toList_ofList]

/-- The numbers of a text are numbers. -/
theorem Token.sound_of_tokens? {cs : List Char} {ts : List Token} (h : tokens? cs = some ts) :
    ∀ t ∈ ts, t.Sound := by
  fun_induction tokens? cs generalizing ts with
  | case1 =>
    cases h
    exact List.forall_mem_nil _
  | case2 c rest _ ih => exact ih h
  | case3 rest s after _ _ ih =>
    obtain ⟨more, hmore, rfl⟩ := Option.map_eq_some_iff.1 h
    exact List.forall_mem_cons.2 ⟨trivial, ih hmore⟩
  | case4 => cases h
  | case5 c rest _ _ t ht ih =>
    obtain ⟨more, hmore, rfl⟩ := Option.map_eq_some_iff.1 h
    exact List.forall_mem_cons.2 ⟨sound_of_punctuation? ht, ih hmore⟩
  | case6 c rest _ _ _ ih =>
    obtain ⟨t, ht, h⟩ := Option.bind_eq_some_iff.1 h
    obtain ⟨more, hmore, h⟩ := Option.bind_eq_some_iff.1 h
    cases h
    exact List.forall_mem_cons.2 ⟨sound_of_word? ht, ih hmore⟩

/-! ### The tokens that are spent -/

/-- The tokens of an item that another one follows. -/
def itemSpent (v : Json) : List Token := tokens v ++ [.comma]

/-- The tokens of a member that another one follows. -/
def memberSpent (m : String × Json) : List Token := .string m.1 :: .colon :: itemSpent m.2

theorem tokens_append_itemTokens (u : Json) (items : List Json) (v : Json) :
    tokens u ++ itemTokens (items ++ [v]) = (u :: items).flatMap itemSpent ++ tokens v := by
  induction items generalizing u with
  | nil => simp [itemTokens, itemSpent]
  | cons w items ih =>
    rw [List.cons_append, itemTokens, List.cons_append, ih, List.flatMap_cons (x := u), itemSpent]
    simp

/-- An array is spent item by item. -/
theorem tokens_array (items : List Json) (v : Json) :
    tokens (.array (items ++ [v])) =
      .openArray :: items.flatMap itemSpent ++ tokens v ++ [.closeArray] := by
  cases items with
  | nil => simp [tokens, itemTokens]
  | cons u items =>
    have := tokens_append_itemTokens u items v
    simp only [List.cons_append, tokens, this]

theorem tokens_append_memberTokens (u : Json) (members : List (String × Json)) (name : String)
    (v : Json) :
    tokens u ++ memberTokens (members ++ [(name, v)]) =
      itemSpent u ++ members.flatMap memberSpent ++ .string name :: .colon :: tokens v := by
  induction members generalizing u with
  | nil => simp [memberTokens, itemSpent]
  | cons m members ih =>
    rw [List.cons_append, memberTokens, List.cons_append, List.cons_append, List.cons_append, ih,
      List.flatMap_cons, memberSpent, itemSpent]
    simp [itemSpent]

/-- An object is spent member by member. -/
theorem tokens_object (members : List (String × Json)) (name : String) (v : Json) :
    tokens (.object (members ++ [(name, v)])) =
      .openObject :: members.flatMap memberSpent ++ .string name :: .colon :: tokens v
        ++ [.closeObject] := by
  cases members with
  | nil => simp [tokens, memberTokens]
  | cons m members =>
    have := tokens_append_memberTokens m.2 members name v
    simp only [List.cons_append, tokens, this, List.flatMap_cons, memberSpent]

/-- The tokens of an open array or object, up to the value that is due. -/
def Level.spent : Level → List Token
  | .array items => .openArray :: items.reverse.flatMap itemSpent
  | .object members name =>
    .openObject :: members.reverse.flatMap memberSpent ++ [.string name, .colon]

/-- The tokens that came since a value was due. -/
def Next.spent : Next → List Token
  | .value => []
  | .firstItem => [.openArray]
  | .firstName => [.openObject]
  | .name members => .openObject :: members.reverse.flatMap memberSpent
  | .colon members s => .openObject :: members.reverse.flatMap memberSpent ++ [.string s]
  | .after v => tokens v

namespace Reading

variable {r r' : Reading} {levels : List Level} {t : Token} {v : Json}

/-- The tokens that were read. -/
def spent (r : Reading) : List Token :=
  r.levels.reverse.flatMap Level.spent ++ r.next.spent

theorem spent_beginValue (h : beginValue levels t = some r) :
    r.spent = levels.reverse.flatMap Level.spent ++ [t] := by
  unfold beginValue at h
  split at h
  case h_5 | h_6 =>
    split_ifs at h
    cases h
    rfl
  case h_7 => cases h
  all_goals
    cases h
    rw [spent, Next.spent, tokens]

theorem spent_afterValue (h : afterValue v levels t = some r) :
    r.spent = levels.reverse.flatMap Level.spent ++ tokens v ++ [t] := by
  unfold afterValue at h
  split at h <;> cases h
  · simp [spent, Level.spent, Next.spent, itemSpent]
  · simp [spent, Level.spent, Next.spent, tokens_array]
  · simp [spent, Level.spent, Next.spent, memberSpent, itemSpent]
  · simp [spent, Level.spent, Next.spent, tokens_object]

/-- **A step** spends its token. -/
theorem spent_step (h : r.step t = some r') : r'.spent = r.spent ++ [t] := by
  obtain ⟨levels, next⟩ := r
  unfold step at h
  dsimp only at h
  split at h
  · rw [spent_beginValue h]
    simp [spent, Next.spent]
  · cases h
    simp [spent, Next.spent, tokens]
  · rw [spent_beginValue h]
    simp [spent, Next.spent, Level.spent]
  · cases h
    simp [spent, Next.spent, tokens]
  · cases h
    simp [spent, Next.spent]
  · cases h
    simp [spent, Next.spent]
  · cases h
    simp [spent, Next.spent, Level.spent]
  · rw [spent_afterValue h]
    rfl
  · cases h

/-- **A run** spends its tokens. -/
theorem spent_foldlM {ts : List Token} (h : ts.foldlM step r = some r') :
    r'.spent = r.spent ++ ts := by
  induction ts generalizing r with
  | nil =>
    cases h
    rw [List.append_nil]
  | cons t ts ih =>
    rw [List.foldlM_cons] at h
    obtain ⟨r₁, hstep, hmore⟩ := Option.bind_eq_some_iff.1 h
    rw [ih hmore, spent_step hstep, List.append_assoc, List.singleton_append]

end Reading

/-! ### What was read so far -/

/-- What an open array or object holds. -/
def Level.values : Level → List Json
  | .array items => items
  | .object members _ => members.map Prod.snd

/-- The levels are allowed, and what they hold can be read where they are. -/
def LevelsHold : List Level → Prop
  | [] => True
  | l :: rest =>
    rest.length < maxDepth ∧ (∀ v ∈ l.values, Readable (rest.length + 1) v) ∧ LevelsHold rest

/-- What has come since a value was due is allowed inside `depth` open arrays and objects, and it
can be read. -/
def Next.Holds (depth : Nat) : Next → Prop
  | .value => True
  | .firstItem => depth < maxDepth
  | .firstName => depth < maxDepth
  | .name members => depth < maxDepth ∧ ∀ m ∈ members, Readable (depth + 1) m.2
  | .colon members _ => depth < maxDepth ∧ ∀ m ∈ members, Readable (depth + 1) m.2
  | .after v => Readable depth v

namespace Reading

/-- What was read so far can be read. -/
structure Holds (r : Reading) : Prop where
  levels : LevelsHold r.levels
  next : r.next.Holds r.levels.length

theorem holds_start : start.Holds := ⟨trivial, trivial⟩

variable {r r' : Reading} {levels : List Level} {t : Token} {v : Json}

theorem holds_beginValue (ht : t.Sound) (hlevels : LevelsHold levels)
    (h : beginValue levels t = some r) : r.Holds := by
  unfold beginValue at h
  split at h
  case h_1 =>
    cases h
    exact ⟨hlevels, .null⟩
  case h_2 =>
    cases h
    exact ⟨hlevels, .bool _⟩
  case h_3 =>
    cases h
    exact ⟨hlevels, .number ht⟩
  case h_4 =>
    cases h
    exact ⟨hlevels, .string _⟩
  case h_5 | h_6 =>
    split_ifs at h with hdepth
    cases h
    exact ⟨hlevels, hdepth⟩
  case h_7 => cases h

theorem holds_afterValue (hlevels : LevelsHold levels) (hv : Readable levels.length v)
    (h : afterValue v levels t = some r) : r.Holds := by
  unfold afterValue at h
  split at h <;> cases h <;> obtain ⟨hdepth, hvalues, hrest⟩ := hlevels
  · exact ⟨⟨hdepth, List.forall_mem_cons.2 ⟨hv, hvalues⟩, hrest⟩, trivial⟩
  · refine ⟨hrest, .array hdepth fun w hw => ?_⟩
    exact List.forall_mem_cons.2 ⟨hv, hvalues⟩ w (List.mem_reverse.1 hw)
  · refine ⟨hrest, hdepth, List.forall_mem_cons.2 ⟨hv, fun m hm => ?_⟩⟩
    exact hvalues _ (List.mem_map_of_mem hm)
  · refine ⟨hrest, .object hdepth fun m hm => ?_⟩
    rcases List.mem_cons.1 (List.mem_reverse.1 hm) with rfl | hm
    · exact hv
    · exact hvalues _ (List.mem_map_of_mem hm)

/-- **A step** keeps what was read readable. -/
theorem holds_step (ht : t.Sound) (hr : r.Holds) (h : r.step t = some r') : r'.Holds := by
  obtain ⟨levels, next⟩ := r
  obtain ⟨hlevels, hnext⟩ := hr
  unfold step at h
  dsimp only at h hlevels hnext
  split at h
  · exact holds_beginValue ht hlevels h
  · cases h
    exact ⟨hlevels, .array hnext (List.forall_mem_nil _)⟩
  · have hopened : LevelsHold (.array [] :: levels) := ⟨hnext, List.forall_mem_nil _, hlevels⟩
    exact holds_beginValue ht hopened h
  · cases h
    exact ⟨hlevels, .object hnext (List.forall_mem_nil _)⟩
  · cases h
    exact ⟨hlevels, hnext, List.forall_mem_nil _⟩
  · cases h
    exact ⟨hlevels, hnext⟩
  · cases h
    refine ⟨⟨hnext.1, fun v hv => ?_, hlevels⟩, trivial⟩
    obtain ⟨m, hm, rfl⟩ := List.mem_map.1 hv
    exact hnext.2 m hm
  · exact holds_afterValue hlevels hnext h
  · cases h

/-- **A run** keeps what was read readable. -/
theorem holds_foldlM {ts : List Token} (hts : ∀ t ∈ ts, t.Sound) (hr : r.Holds)
    (h : ts.foldlM step r = some r') : r'.Holds := by
  induction ts generalizing r with
  | nil =>
    cases h
    exact hr
  | cons t ts ih =>
    obtain ⟨ht, hts⟩ := List.forall_mem_cons.1 hts
    rw [List.foldlM_cons] at h
    obtain ⟨r₁, hstep, hmore⟩ := Option.bind_eq_some_iff.1 h
    exact ih hts (holds_step ht hr hstep) hmore

end Reading

/-- **Tokens are read as a value** exactly if they are those that the value is written with. -/
theorem ofTokens?_eq_some_iff {ts : List Token} (hts : ∀ t ∈ ts, t.Sound) {v : Json} :
    ofTokens? ts = some v ↔ ts = tokens v ∧ Readable 0 v := by
  constructor
  · intro h
    obtain ⟨⟨levels, next⟩, hrun, hvalue⟩ := Option.bind_eq_some_iff.1 h
    have hspent := Reading.spent_foldlM hrun
    have hholds := Reading.holds_foldlM hts Reading.holds_start hrun
    unfold Reading.value? at hvalue
    split at hvalue
    · rename_i w heq
      cases hvalue
      cases heq
      exact ⟨hspent.symm, hholds.next⟩
    · cases hvalue
  · rintro ⟨rfl, hv⟩
    have hrun : (tokens v).foldlM Reading.step Reading.start = some ⟨[], .after v⟩ :=
      foldlM_tokens hv rfl
    rw [ofTokens?, hrun]
    rfl

/-- **A text is read as a value** exactly if it is cut into the tokens of the value. -/
theorem read?_eq_some_iff {s : String} {v : Json} :
    read? s = some v ↔ tokens? s.toList = some (tokens v) ∧ Readable 0 v := by
  rw [read?]
  cases hts : tokens? s.toList with
  | none => simp
  | some ts =>
    rw [Option.bind_eq_bind, Option.bind_some, ofTokens?_eq_some_iff (Token.sound_of_tokens? hts),
      Option.some.injEq]

end TextMasking.Json
