import TextMasking.Proofs.Matching.Matcher
import TextMasking.Proofs.Regex.Nesting

/-! # What the wrapping of a pattern is read as

However a pattern is written, in its wrapping it is read as the group of the match, with at most
one character before it (`Matcher.leads_of_read_wrapSource`).  This is how the expression of a
literal pattern is built, so it holds of the expression of every matcher
(`Matcher.leads_of_compile`). -/

namespace TextMasking

namespace Regex

/-! ### Reading on from a part -/

variable {p : Part} {k : Nat} {st : Reading} {x rest : List Char}

/-- A reading that reaches a part which can be read goes on after it. -/
theorem readParts_of_readPart {c : Char} {st₁ : Reading} {r : List Char}
    (h : readParts k st x = .ok p) (hx : st.flags.skip x = c :: rest)
    (hst : readPart st c rest = .ok (st₁, r)) : ∃ k', readParts k' st₁ r = .ok p := by
  rcases readParts_ok h with ⟨hnil, -⟩ | ⟨c', rest', k', st₂, r', hx', -, hst', h⟩
  · rw [hnil] at hx
    cases hx
  · rw [hx'] at hx
    obtain ⟨rfl, rfl⟩ := List.cons.inj hx
    rw [hst'] at hst
    cases hst
    exact ⟨k', h⟩

/-- The end of a group makes one part of what was read in it. -/
theorem readParts_close (h : readParts k st x = .ok p) (hx : st.flags.skip x = ')' :: rest)
    {g : OpenGroup} {groups : List OpenGroup} (hg : st.groups = g :: groups) :
    ∃ k' part, readParts k' ⟨{ g.outer with items := part :: g.outer.items }, groups, g.flags,
        st.names⟩ rest = .ok p ∧
      part.regex = match g.name with
        | some n => .group n st.level.toPart.regex
        | none => st.level.toPart.regex := by
  obtain ⟨l, gs, f, ns⟩ := st
  dsimp only at hg
  subst hg
  obtain ⟨k', h'⟩ := readParts_of_readPart h hx rfl
  exact ⟨k', _, h', rfl⟩

/-- The end of a group without a name that was opened first makes a level of one part. -/
theorem readParts_closeUnnamed (h : readParts k st x = .ok p)
    (hx : st.flags.skip x = ')' :: rest) {f : Flags} {groups : List OpenGroup}
    (hg : st.groups = ⟨none, f, ⟨[], []⟩⟩ :: groups) {name : String}
    (ha : st.level.Avoids name) :
    ∃ k' level, readParts k' ⟨level, groups, f, st.names⟩ rest = .ok p ∧ level.Avoids name := by
  obtain ⟨k', part, h', hpart⟩ := readParts_close h hx hg
  refine ⟨k', _, h', Level.Avoids.empty.push ?_⟩
  rw [hpart]
  exact ha.toPart

/-- A group without a name is opened; letter case may be ignored in it. -/
theorem readParts_open {level : Level} {groups : List OpenGroup} {names : List String}
    {flags : Flags} (hf : flags.verbose = false) (fold : Bool)
    (h : readParts k ⟨level, groups, flags, names⟩
      ('(' :: '?' :: ((if fold then ['i'] else []) ++ ':' :: rest)) = .ok p) :
    ∃ k' inside, readParts k' ⟨⟨[], []⟩, ⟨none, flags, level⟩ :: groups, inside, names⟩ rest =
      .ok p ∧ inside.verbose = false := by
  obtain ⟨_, _, _, _, _, _, _⟩ := flags
  cases hf
  cases fold
  all_goals
    obtain ⟨k', h'⟩ := readParts_of_readPart h rfl rfl
    exact ⟨k', _, h', rfl⟩

/-- The group of the match is opened. -/
theorem readParts_openBody {level : Level} (h : readParts k ⟨level, [], .initial, []⟩
      ('(' :: ("?P<mask_body>".toList ++ rest)) = .ok p) :
    ∃ k', readParts k' ⟨⟨[], []⟩, [⟨some bodyGroup, .initial, level⟩], .initial, [bodyGroup]⟩ rest =
      .ok p :=
  readParts_of_readPart h rfl rfl

/-- The group around a choice between an assertion and a character is read as that choice. -/
theorem readParts_edge {level : Level} {groups : List OpenGroup} {names : List String} {c : Char}
    {y : List Char} (hc : c = '^' ∨ c = '$') (h : readParts k ⟨level, groups, .initial, names⟩
      ('(' :: '?' :: ':' :: c :: "|[^A-Za-z0-9_])".toList ++ y) = .ok p) :
    ∃ k' a s d, readParts k' ⟨{ level with items := ⟨.alt (.assert a) (.set s), d, false⟩ ::
      level.items }, groups, .initial, names⟩ y = .ok p := by
  obtain ⟨k, h⟩ := readParts_of_readPart h rfl rfl
  rcases hc with rfl | rfl
  all_goals
    obtain ⟨k, h⟩ := readParts_of_readPart h rfl rfl
    obtain ⟨k, h⟩ := readParts_of_readPart h rfl rfl
    obtain ⟨k, h⟩ := readParts_of_readPart h rfl rfl
    obtain ⟨k, h⟩ := readParts_of_readPart h rfl rfl
    exact ⟨k, _, _, _, h⟩

/-- A pattern that can be read by itself is read inside of groups up to their ends. -/
theorem readParts_pattern {pattern suf : List Char} {alone : Part} {steps : Nat}
    (halone : readParts steps Reading.initial pattern = .ok alone) (hsuf : Closing suf)
    {groups : List OpenGroup} (hg : groups ≠ []) {f : Flags} (hf : f.verbose = false)
    {name : String} (h : readParts k ⟨⟨[], []⟩, groups, f, [name]⟩ (pattern ++ suf) = .ok p) :
    ∃ k' q rest, readParts k' q rest = .ok p ∧ q.flags.skip rest = suf ∧ q.groups = groups ∧
      q.level.Avoids name := by
  have hi : Inside name groups [] Reading.initial ⟨⟨[], []⟩, groups, f, [name]⟩ :=
    ⟨hf, rfl, rfl, List.mem_singleton.mpr rfl, .empty, by simp⟩
  obtain ⟨q, rest, k', hrest, hq, ha, h'⟩ :=
    hi.readParts hsuf hg (.append suf pattern) halone h
  exact ⟨k', q, rest, h', hrest, hq, ha⟩

end Regex

namespace Matcher

open Regex

/-- What stands after a pattern in its wrapping ends groups. -/
theorem closing_wrapping (wholeWord fold : Bool) :
    Closing (')' :: ((if fold then [')'] else []) ++
      ')' :: (afterSource wholeWord false).toList)) := by
  cases wholeWord
  all_goals
    cases fold
    all_goals
      refine ⟨⟨_, rfl⟩, by decide, ?_⟩
      intro rest h
      cases h

/-- The pattern in its wrapping is read as one part, the group of the match. -/
theorem exists_body_of_readParts {wholeWord fold : Bool} {pattern : List Char} {lead : List Part}
    {alone p : Part} {steps k : Nat} (halone : readParts steps Reading.initial pattern = .ok alone)
    (h : readParts k ⟨⟨[], lead⟩, [], .initial, []⟩ ('(' :: ("?P<mask_body>".toList ++
      ((if fold then "(?i:".toList else []) ++ '(' :: '?' :: ':' :: (pattern ++ ')' ::
        ((if fold then [')'] else []) ++ ')' :: (afterSource wholeWord false).toList))))) =
          .ok p) :
    ∃ k' body names r, readParts k' ⟨⟨[], body :: lead⟩, [], .initial, names⟩
        (afterSource wholeWord false).toList = .ok p ∧
      body.regex = .group bodyGroup r ∧ r.Avoids bodyGroup := by
  have hsuf := closing_wrapping wholeWord fold
  obtain ⟨k, h⟩ := readParts_openBody h
  cases fold with
  | false =>
      obtain ⟨k, f, h, hf⟩ := readParts_open rfl false h
      obtain ⟨k, q, rest, h, hx, hg, ha⟩ := readParts_pattern halone hsuf (by simp) hf h
      obtain ⟨k, level, h, ha⟩ := readParts_closeUnnamed h hx hg ha
      obtain ⟨k, body, h, hbody⟩ := readParts_close h rfl rfl
      exact ⟨k, body, q.names, _, h, hbody, ha.toPart⟩
  | true =>
      obtain ⟨k, f, h, hf⟩ := readParts_open rfl true h
      obtain ⟨k, f', h, hf'⟩ := readParts_open hf false h
      obtain ⟨k, q, rest, h, hx, hg, ha⟩ := readParts_pattern halone hsuf (by simp) hf' h
      obtain ⟨k, level, h, ha⟩ := readParts_closeUnnamed h hx hg ha
      have hskip : f.skip (')' :: ')' :: (afterSource wholeWord false).toList) =
          ')' :: ')' :: (afterSource wholeWord false).toList := by
        rw [Flags.skip, hf]
        rfl
      obtain ⟨k, level', h, ha⟩ := readParts_closeUnnamed h hskip rfl ha
      obtain ⟨k, body, h, hbody⟩ := readParts_close h rfl rfl
      exact ⟨k, body, q.names, _, h, hbody, ha.toPart⟩

theorem toList_wrapSource (rule : Rule) (pattern : String) :
    (wrapSource rule ("(?:" ++ pattern ++ ")") false).toList =
      (beforeSource rule.wholeWord).toList ++ '(' :: ("?P<mask_body>".toList ++
        ((if !rule.caseSensitive then "(?i:".toList else []) ++ '(' :: '?' :: ':' ::
          (pattern.toList ++ ')' :: ((if !rule.caseSensitive then [')'] else []) ++
            ')' :: (afterSource rule.wholeWord false).toList)))) := by
  unfold wrapSource
  cases rule.caseSensitive
  all_goals
    simp only [Bool.false_eq_true, if_false, if_true, String.toList_append, List.append_assoc]
    rfl

/-- **A pattern in its wrapping leads to the group of the match.** -/
theorem leads_of_read_wrapSource {rule : Rule} {alone wrapped : Regex}
    (halone : Regex.read rule.pattern.toList = .ok alone)
    (h : Regex.read (wrapSource rule ("(?:" ++ rule.pattern ++ ")") false).toList = .ok wrapped) :
    wrapped.Leads bodyGroup (if rule.wholeWord then 1 else 0) := by
  obtain ⟨p₀, hp₀, -⟩ := ok_of_bind halone
  obtain ⟨p, hp, h⟩ := ok_of_bind h
  obtain rfl : p.regex = wrapped := by
    split_ifs at h
    · cases h
    · cases h
      rfl
  rw [toList_wrapSource] at hp
  cases hw : rule.wholeWord with
  | false =>
      rw [hw] at hp
      obtain ⟨k, body, names, r, hp, hr, ha⟩ := exists_body_of_readParts hp₀ hp
      rcases readParts_ok hp with ⟨-, -, hp⟩ | ⟨_, _, _, _, _, hx, -⟩
      · have hregex : p.regex = body.regex := by
          rw [hp]
          rfl
        rw [hregex, hr]
        exact .here (.group ha)
      · cases hx
  | true =>
      rw [hw] at hp
      obtain ⟨k, a, s, d, hp⟩ := readParts_edge (.inl rfl) hp
      obtain ⟨k, body, names, r, hp, hr, ha⟩ := exists_body_of_readParts hp₀ hp
      obtain ⟨k, a', s', d', hp⟩ := readParts_edge (y := []) (.inr rfl) hp
      rcases readParts_ok hp with ⟨-, -, hp⟩ | ⟨_, _, _, _, _, hx, -⟩
      · have hregex : p.regex = .seq (.alt (.assert a) (.set s))
            (.seq body.regex (.alt (.assert a') (.set s'))) := by
          rw [hp]
          rfl
        rw [hregex, hr]
        exact .edge (.either a s) (.seq ha ⟨trivial, trivial⟩)
      · cases hx

/-! ### Literal patterns -/

theorem avoids_digitsRegex (name : String) (digits : List Char) :
    (Number.digitsRegex digits).Avoids name := by
  fun_induction Number.digitsRegex digits with
  | case1 => trivial
  | case2 => trivial
  | case3 d rest _ ih => exact ⟨trivial, trivial, ih⟩

theorem avoids_piece (name : String) (fold : Bool) (p : Piece) : (p.regex fold).Avoids name := by
  cases p with
  | char c => trivial
  | number n =>
      refine ⟨avoids_digitsRegex name n.digits, ?_⟩
      unfold Number.fractionRegex
      split
      · refine ⟨trivial, avoids_seqs.mpr ?_⟩
        intro r hr
        obtain ⟨d, -, rfl⟩ := List.mem_map.mp hr
        trivial
      · exact ⟨trivial, trivial⟩

theorem avoids_afterRegex (name : String) (wholeWord number : Bool) :
    ∀ r ∈ afterRegex wholeWord number, r.Avoids name := by
  intro r hr
  cases wholeWord
  all_goals
    cases number
    all_goals
      simp only [afterRegex, List.mem_singleton, List.not_mem_nil] at hr
  all_goals
    rw [hr]
    simp [edgeOr, idleMark, Avoids]

theorem leads_wrapRegex {rule : Rule} {body : Regex} (h : body.Avoids bodyGroup) (number : Bool) :
    (wrapRegex rule body number).Leads bodyGroup (if rule.wholeWord then 1 else 0) := by
  have henters := Enters.of_seqs h (avoids_afterRegex bodyGroup rule.wholeWord number)
  unfold wrapRegex
  cases hw : rule.wholeWord with
  | false =>
      rw [hw] at henters
      exact .here henters
  | true =>
      rw [hw] at henters
      exact .edge (.either ..) henters

/-- **The expression of every matcher leads to the group of the match.** -/
theorem leads_of_compile {rule : Rule} {m : Matcher} (h : compile rule = .ok m) :
    m.regex.Leads bodyGroup (if m.readsBefore then 1 else 0) := by
  obtain rfl | ⟨alone, wrapped, halone, hwrapped, rfl⟩ := compile_cases h
  · refine leads_wrapRegex (avoids_seqs.mpr ?_) _
    intro r hr
    obtain ⟨p, -, rfl⟩ := List.mem_map.mp hr
    exact avoids_piece bodyGroup _ p
  · exact leads_of_read_wrapSource halone hwrapped

end Matcher

end TextMasking
