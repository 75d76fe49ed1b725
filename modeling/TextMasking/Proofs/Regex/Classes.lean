import TextMasking.Proofs.Regex.Continued

/-! # Bracketed classes with more text after them

Two readings of a class beside each other, one of them with more text after the pattern, open and
close the same brackets (`Regex.ClassRuns.continued`), so the class ends at the same place in both
(`Regex.continued_readBracket`). -/

namespace TextMasking.Regex

open Unicode

variable {suf : List Char} {f f' : Flags} {x x' r r' : List Char}

/-! ### Parts of a class -/

/-- The name of a named class goes up to a colon in the pattern, or there is none. -/
theorem colon_append (hsuf : Closing suf) (y : List Char) :
    (∃ more, y.dropWhile (· != ':') = ':' :: ']' :: more ∧
        (y ++ suf).dropWhile (· != ':') = ':' :: ']' :: (more ++ suf) ∧
        (y ++ suf).takeWhile (· != ':') = y.takeWhile (· != ':')) ∨
      (∀ more, y.dropWhile (· != ':') ≠ ':' :: ']' :: more) ∧
        ∀ more, (y ++ suf).dropWhile (· != ':') ≠ ':' :: ']' :: more := by
  rw [List.dropWhile_append, List.takeWhile_append]
  cases hy : y.dropWhile (· != ':') with
  | nil => exact .inr ⟨by simp, by simpa using hsuf.noClassEnd⟩
  | cons c rest =>
      have hlen : (y.takeWhile (· != ':')).length ≠ y.length := by
        intro e
        have := congrArg List.length (List.takeWhile_append_dropWhile (p := (· != ':')) (l := y))
        rw [List.length_append, hy, List.length_cons] at this
        omega
      rw [if_neg hlen, if_neg (by simp)]
      cases rest with
      | nil =>
          obtain ⟨tail, rfl⟩ := hsuf.head
          exact .inr ⟨by simp, by simp⟩
      | cons d more =>
          by_cases hcd : c = ':' ∧ d = ']'
          · obtain ⟨rfl, rfl⟩ := hcd
            exact .inl ⟨more, rfl, rfl, rfl⟩
          · refine .inr ⟨?_, ?_⟩
            all_goals
              intro more' e
              cases e
              exact hcd ⟨rfl, rfl⟩

/-- What a named class is read from after its opening, with more text after the pattern. -/
theorem className_append (hsuf : Closing suf) (negated : Bool) (y : List Char) :
    (match (y ++ suf).dropWhile (· != ':') with
      | ':' :: ']' :: more =>
        (asciiClass? (String.ofList ((y ++ suf).takeWhile (· != ':')))).map (·, negated, more)
      | _ => none) =
    (match y.dropWhile (· != ':') with
      | ':' :: ']' :: more =>
        (asciiClass? (String.ofList (y.takeWhile (· != ':')))).map (·, negated, more)
      | _ => none).map fun (s, negated, rest) => (s, negated, rest ++ suf) := by
  rcases colon_append hsuf y with ⟨more, hy, hy', hname⟩ | ⟨hy, hy'⟩
  · rw [hy, hy', hname]
    simp only [Option.map_map]
    rfl
  · split
    · rename_i more e
      exact absurd e (hy' more)
    · rfl

theorem namedClass?_of_ne {d : Char} (hd : d ≠ '^') (z : List Char) : namedClass? (':' :: d :: z) =
    match (d :: z).dropWhile (· != ':') with
    | ':' :: ']' :: more =>
      (asciiClass? (String.ofList ((d :: z).takeWhile (· != ':')))).map (·, false, more)
    | _ => none := by
  rw [namedClass?]
  all_goals first
    | rfl
    | exact fun rest e => hd (List.cons.inj e).1

/-- A named class is complete in the pattern or begins in neither text. -/
theorem namedClass?_append (hsuf : Closing suf) (x : List Char) :
    namedClass? (x ++ suf) =
      (namedClass? x).map fun (s, negated, rest) => (s, negated, rest ++ suf) := by
  obtain ⟨tail, hs⟩ := hsuf.head
  cases x with
  | nil =>
      rw [List.nil_append, hs]
      rfl
  | cons c x =>
      by_cases hc : c = ':'
      · subst hc
        cases x with
        | nil =>
            have := className_append hsuf false []
            rw [hs] at this ⊢
            exact this
        | cons d x =>
            by_cases hd : d = '^'
            · subst hd
              exact className_append hsuf true x
            · rw [List.cons_append, List.cons_append, namedClass?_of_ne hd, namedClass?_of_ne hd]
              exact className_append hsuf false (d :: x)
      · have h (z : List Char) : namedClass? (c :: z) = none := by
          rw [namedClass?]
          exact fun rest e => hc (List.cons.inj e).1
        rw [List.cons_append, h, h]
        rfl

theorem continued_hyphens (hsuf : Closing suf) (hf : f'.verbose = f.verbose)
    (hx : Continued suf x x') (parts : List ClassPart) :
    (openBracket.hyphens f' parts x').1 = (openBracket.hyphens f parts x).1 ∧
      Continued suf (openBracket.hyphens f parts x).2 (openBracket.hyphens f' parts x').2 := by
  induction x generalizing x' parts with
  | nil =>
      have h' : openBracket.hyphens f' parts x' = (parts, f'.skip x') := by
        obtain ⟨tail, hs⟩ := hsuf.head
        rcases hx with rfl | ⟨-, rfl⟩
        · rw [hs]
          rfl
        · rfl
      rw [h']
      exact ⟨rfl, hx.skip hsuf hf⟩
  | cons c x ih =>
      obtain rfl := hx.cons
      by_cases hc : c = '-'
      · subst hc
        exact ih (.append suf x) _
      · have h (f : Flags) (y : List Char) :
            openBracket.hyphens f parts (c :: y) = (parts, f.skip (c :: y)) := by
          rw [openBracket.hyphens]
          exact fun rest e => hc (List.cons.inj e).1
        rw [h, h]
        exact ⟨rfl, (Continued.append suf (c :: x)).skip hsuf hf⟩

/-- The rest after the caret of a negated bracket. -/
def afterCaret (f : Flags) : List Char → List Char
  | '^' :: rest => f.skip rest
  | rest => rest

theorem continued_afterCaret (hsuf : Closing suf) (hf : f'.verbose = f.verbose)
    (hx : Continued suf x x') : Continued suf (afterCaret f x) (afterCaret f' x') := by
  cases x with
  | nil =>
      have h' : afterCaret f' x' = x' := by
        obtain ⟨tail, hs⟩ := hsuf.head
        rcases hx with rfl | ⟨-, rfl⟩
        · rw [hs]
          rfl
        · rfl
      rw [h']
      exact hx
  | cons c x =>
      obtain rfl := hx.cons
      by_cases hc : c = '^'
      · subst hc
        exact (Continued.append suf x).skip hsuf hf
      · have h (f : Flags) (y : List Char) : afterCaret f (c :: y) = c :: y := by
          rw [afterCaret]
          exact fun rest e => hc (List.cons.inj e).1
        rw [h, h]
        exact .append suf (c :: x)

/-- A bracket that closes right after the start of a class stands for itself. -/
theorem openBracket_ok {n : Bool} {parts : List ClassPart}
    (h : openBracket f x = .ok (n, parts, r)) :
    ∃ p s, openBracket.hyphens f [] (afterCaret f (f.skip x)) = (p, s) ∧
      ((p = [] ∧ ∃ rest, s = ']' :: rest ∧ r = f.skip rest) ∨
        (p = [] → ∀ rest, s ≠ ']' :: rest) ∧ s ≠ [] ∧ r = s) := by
  unfold openBracket at h
  split at h
  rename_i negated y hcaret
  have hy : y = afterCaret f (f.skip x) := by
    split at hcaret
    · rename_i rest hx
      cases hcaret
      rw [hx]
      rfl
    · rename_i hne
      cases hcaret
      rw [afterCaret]
      exact hne
  rw [← hy]
  refine ⟨_, _, rfl, ?_⟩
  dsimp only at h
  split at h
  · cases h
  · rename_i rest hr
    split_ifs at h with hp hrest
    · cases h
    · cases h
      exact .inl ⟨List.isEmpty_iff.mp hp, rest, hr, rfl⟩
    · cases h
      exact .inr ⟨fun e => absurd (List.isEmpty_iff.mpr e) hp, by rw [hr]; simp, rfl⟩
  · rename_i hne hbr
    cases h
    exact .inr ⟨fun _ rest e => hbr rest e, hne, rfl⟩

theorem continued_openBracket (hsuf : Closing suf) (hf : f'.verbose = f.verbose)
    (hx : Continued suf x x') {n n' : Bool} {p p' : List ClassPart}
    (h : openBracket f x = .ok (n, p, r)) (h' : openBracket f' x' = .ok (n', p', r')) :
    Continued suf r r' := by
  obtain ⟨q, s, hq, hr⟩ := openBracket_ok h
  obtain ⟨q', s', hq', hr'⟩ := openBracket_ok h'
  have hy := continued_hyphens hsuf hf (continued_afterCaret hsuf hf (hx.skip hsuf hf)) []
  rw [hq, hq'] at hy
  obtain ⟨rfl, hs⟩ : q' = q ∧ Continued suf s s' := hy
  rcases hr with ⟨hp, rest, rfl, rfl⟩ | ⟨hp, hne, rfl⟩
  · obtain rfl := hs.cons
    rcases hr' with ⟨-, rest', e, rfl⟩ | ⟨hp', -⟩
    · obtain rfl := (List.cons.inj e).2
      exact (Continued.append suf rest).skip hsuf hf
    · exact absurd rfl (hp' hp _)
  · rcases hr' with ⟨hp', rest', rfl, rfl⟩ | ⟨-, -, rfl⟩
    · obtain ⟨t, ht, -⟩ := hs.head hsuf (by decide)
      exact absurd ht (hp hp' t)
    · exact hs

theorem continued_readClassAtom (hsuf : Closing suf) (hf : f'.verbose = f.verbose)
    (hx : Continued suf x x') {a a' : Atom} (h : readClassAtom f x = .ok (a, r))
    (h' : readClassAtom f' x' = .ok (a', r')) : Continued suf r r' := by
  cases x with
  | nil => cases h
  | cons c x =>
      obtain rfl := hx.cons
      by_cases hc : c = '\\'
      · subst hc
        exact continued_readEscape hsuf hf (.append suf x) h h'
      · have hrest (f : Flags) (y : List Char) :
            readClassAtom f (c :: y) = .ok (.literal c false, y) := by
          rw [readClassAtom]
          exact hc
        rw [hrest] at h h'
        cases h
        cases h'
        exact .append suf r

theorem peekPastSpace_congr (hf : f'.verbose = f.verbose) (b : Bool) (x : List Char) :
    peekPastSpace f' b x = peekPastSpace f b x := by
  induction x generalizing b with
  | nil => rfl
  | cons c x ih => rw [peekPastSpace, peekPastSpace, hf, ih, ih]

/-- What is seen past the space is seen there too if more text follows. -/
theorem peekPastSpace_append (hsuf : Closing suf) (b : Bool) (x : List Char) :
    peekPastSpace f b (x ++ suf) = (peekPastSpace f b x).or (some ')') := by
  induction x generalizing b with
  | nil =>
      obtain ⟨tail, rfl⟩ := hsuf.head
      have hblank : isBlank ')' = false := by decide
      rw [List.nil_append, peekPastSpace]
      simp [hblank, peekPastSpace]
  | cons c x ih =>
      rw [List.cons_append, peekPastSpace, peekPastSpace]
      split_ifs
      · rfl
      · exact ih _
      · exact ih _
      · rfl

/-- A hyphen is left alone if a hyphen or the end of the bracket follows it, else it makes a
range. -/
theorem readClassItem_ok {p : ClassPart} (h : readClassItem f x = .ok (p, r)) :
    ∃ a q, readClassAtom f x = .ok (a, q) ∧
      ((∃ t, f.skip q = '-' :: t ∧
          (peekPastSpace f false t = some ']' ∨ peekPastSpace f false t = some '-') ∧
          r = '-' :: t) ∨
        (∃ t b, f.skip q = '-' :: t ∧
          ¬(peekPastSpace f false t = some ']' ∨ peekPastSpace f false t = some '-') ∧
          readClassAtom f (f.skip t) = .ok (b, r)) ∨
        (∀ t, f.skip q ≠ '-' :: t) ∧ f.skip q ≠ [] ∧ r = f.skip q) := by
  unfold readClassItem at h
  obtain ⟨⟨a, q⟩, hq, h⟩ := ok_of_bind h
  refine ⟨a, q, hq, ?_⟩
  dsimp only at h
  split at h
  · cases h
  · rename_i t hs
    split_ifs at h with hpeek hempty
    · obtain ⟨_, -, h⟩ := ok_of_bind h
      cases h
      exact .inl ⟨t, hs, by simpa using hpeek, rfl⟩
    · cases h
    · obtain ⟨⟨b, q'⟩, hq', h⟩ := ok_of_bind h
      refine .inr (.inl ⟨t, b, hs, by simpa using hpeek, ?_⟩)
      have hr : q' = r := by
        dsimp only at h
        split at h
        · obtain ⟨_, -, h⟩ := ok_of_bind h
          obtain ⟨_, -, h⟩ := ok_of_bind h
          split_ifs at h
          · cases h
          · cases h
            rfl
        · cases h
      rw [← hr]
      exact hq'
  · rename_i hne hhyphen
    obtain ⟨_, -, h⟩ := ok_of_bind h
    cases h
    exact .inr (.inr ⟨hhyphen, hne, rfl⟩)

theorem continued_readClassItem (hsuf : Closing suf) (hf : f'.verbose = f.verbose)
    (hx : Continued suf x x') {p p' : ClassPart} (h : readClassItem f x = .ok (p, r))
    (h' : readClassItem f' x' = .ok (p', r')) : Continued suf r r' := by
  obtain ⟨a, q, hq, hr⟩ := readClassItem_ok h
  obtain ⟨a', q', hq', hr'⟩ := readClassItem_ok h'
  have hs := (continued_readClassAtom hsuf hf hx hq hq').skip hsuf hf
  have hpeek (t : List Char) : peekPastSpace f' false (t ++ suf) =
      (peekPastSpace f false t).or (some ')') := by
    rw [peekPastSpace_congr hf, peekPastSpace_append hsuf]
  rcases hr with ⟨t, ht, hp, rfl⟩ | ⟨t, b, ht, hp, hb⟩ | ⟨hhyphen, hne, rfl⟩
  · rw [ht] at hs
    rcases hr' with ⟨t', ht', -, rfl⟩ | ⟨t', b', ht', hp', -⟩ | ⟨hhyphen', -⟩
    · rw [ht'] at hs
      exact hs
    · rw [ht'] at hs
      rw [(List.cons.inj hs.cons).2, hpeek] at hp'
      rcases hp with hp | hp
      all_goals
        rw [hp] at hp'
        simp at hp'
    · exact absurd hs.cons (hhyphen' _)
  · rw [ht] at hs
    rcases hr' with ⟨t', ht', hp', -⟩ | ⟨t', b', ht', -, hb'⟩ | ⟨hhyphen', -⟩
    · rw [ht'] at hs
      rw [(List.cons.inj hs.cons).2, hpeek] at hp'
      cases hc : peekPastSpace f false t with
      | none =>
          rw [hc] at hp'
          simp at hp'
      | some c =>
          rw [hc] at hp hp'
          exact absurd hp' hp
    · rw [ht'] at hs
      rw [(List.cons.inj hs.cons).2] at hb'
      exact continued_readClassAtom hsuf hf ((Continued.append suf t).skip hsuf hf) hb hb'
    · exact absurd hs.cons (hhyphen' _)
  · have hhead {t : List Char} (ht : f'.skip q' = '-' :: t) : False := by
      rw [ht] at hs
      obtain ⟨t₀, ht₀, -⟩ := hs.head hsuf (by decide)
      exact hhyphen _ ht₀
    rcases hr' with ⟨t', ht', -⟩ | ⟨t', b', ht', -⟩ | ⟨-, -, rfl⟩
    · exact (hhead ht').elim
    · exact (hhead ht').elim
    · exact hs

/-! ### Whole classes -/

/-- Whether a frame is an open bracket. -/
def ClassFrame.isBracket : ClassFrame → Bool
  | .bracket .. => true
  | .operator .. => false

/-- The frames without the operator that waits, if one does; only their kinds are kept. -/
def dropOperator : List Bool → List Bool
  | false :: kinds => kinds
  | kinds => kinds

theorem map_endOperator (right : ClassPart) (frames : List ClassFrame) :
    (endOperator f right frames).2.map ClassFrame.isBracket =
      dropOperator (frames.map ClassFrame.isBracket) := by
  cases frames with
  | nil => rfl
  | cons frame frames => cases frame <;> rfl

/-- The course of reading a class: the kinds of the open frames, the text and its rest. -/
inductive ClassRuns (f : Flags) : List Bool → List Char → List Char → Prop
  | named {kinds : List Bool} {x rest q r : List Char} {s : CharSet} {negated : Bool}
      (hx : f.skip x = '[' :: rest) (hq : namedClass? rest = some (s, negated, q))
      (h : ClassRuns f kinds q r) : ClassRuns f kinds x r
  | opened {kinds : List Bool} {x rest q r : List Char} {negated : Bool} {parts : List ClassPart}
      (hx : f.skip x = '[' :: rest) (hn : namedClass? rest = none)
      (hq : openBracket f rest = .ok (negated, parts, q)) (h : ClassRuns f (true :: kinds) q r) :
      ClassRuns f kinds x r
  | done {kinds : List Bool} {x r : List Char} (hx : f.skip x = ']' :: r)
      (hk : dropOperator kinds = [true]) : ClassRuns f kinds x r
  | closed {kinds : List Bool} {x rest r : List Char} {kinds' : List Bool}
      (hx : f.skip x = ']' :: rest) (hk : dropOperator kinds = true :: kinds')
      (hne : kinds' ≠ []) (h : ClassRuns f kinds' rest r) : ClassRuns f kinds x r
  | operator {kinds : List Bool} {x rest r : List Char} {c : Char}
      (hx : f.skip x = c :: c :: rest) (hc : c ∈ ['&', '-', '~'])
      (h : ClassRuns f (false :: dropOperator kinds) rest r) : ClassRuns f kinds x r
  | item {kinds : List Bool} {x rest q r : List Char} {c : Char} {part : ClassPart}
      (hx : f.skip x = c :: rest) (hc : c ≠ '[' ∧ c ≠ ']')
      (hop : ∀ more, rest = c :: more → c ∉ ['&', '-', '~'])
      (hq : readClassItem f (c :: rest) = .ok (part, q)) (h : ClassRuns f kinds q r) :
      ClassRuns f kinds x r

theorem classRuns_of_readClass {steps : Nat} {frames : List ClassFrame} {parts : List ClassPart}
    {p : ClassPart} (h : readClass f steps frames parts x = .ok (p, r)) :
    ClassRuns f (frames.map ClassFrame.isBracket) x r := by
  induction steps generalizing frames parts x with
  | zero => cases h
  | succ steps ih =>
      have hop {op : ClassOp} {c : Char} {rest : List Char} (hx : f.skip x = c :: c :: rest)
          (hc : c ∈ ['&', '-', '~'])
          (h : readClass f steps (.operator op (endOperator f (unionParts parts) frames).1 ::
            (endOperator f (unionParts parts) frames).2) [] rest = .ok (p, r)) :
          ClassRuns f (frames.map ClassFrame.isBracket) x r := by
        have := ih h
        rw [List.map_cons, map_endOperator] at this
        exact .operator hx hc this
      rw [readClass] at h
      dsimp only at h
      split at h
      · cases h
      · rename_i rest hx
        split at h
        · rename_i s negated q hq
          obtain ⟨_, -, h⟩ := ok_of_bind h
          exact .named hx hq (ih h)
        · rename_i hn
          obtain ⟨⟨negated, inner, q⟩, hq, h⟩ := ok_of_bind h
          exact .opened hx hn hq (ih h)
      · rename_i rest hx
        have hk := map_endOperator (f := f) (unionParts parts) frames
        split at h
        · rename_i outer negated more hmore
          rw [hmore] at hk
          obtain ⟨_, -, h⟩ := ok_of_bind h
          split_ifs at h with hempty
          · cases h
            rw [List.isEmpty_iff.mp hempty] at hk
            exact .done hx hk.symm
          · refine .closed hx hk.symm ?_ (ih h)
            simpa using hempty
        · cases h
      · rename_i rest hx
        exact hop hx (by decide) h
      · rename_i rest hx
        exact hop hx (by decide) h
      · rename_i rest hx
        exact hop hx (by decide) h
      · rename_i hne hopen hclose hinter hdiff heither
        obtain ⟨⟨part, q⟩, hq, h⟩ := ok_of_bind h
        cases hx : f.skip x with
        | nil => exact absurd hx hne
        | cons c rest =>
            rw [hx] at hq
            refine .item hx ⟨?_, ?_⟩ ?_ hq (ih h)
            · rintro rfl
              exact hopen _ hx
            · rintro rfl
              exact hclose _ hx
            · rintro more rfl hc
              simp only [List.mem_cons, List.not_mem_nil, or_false] at hc
              rcases hc with rfl | rfl | rfl
              · exact hinter _ hx
              · exact hdiff _ hx
              · exact heither _ hx

/-- Two readings of a class beside each other take the same course. -/
theorem ClassRuns.continued (hsuf : Closing suf) (hf : f'.verbose = f.verbose) {kinds : List Bool}
    (h : ClassRuns f kinds x r) (hx : Continued suf x x') (h' : ClassRuns f' kinds x' r') :
    Continued suf r r' := by
  induction h generalizing x' with
  | @named kinds x rest q r s negated hs hq _ ih =>
      have e := (hs ▸ hx.skip hsuf hf).cons
      have hn := namedClass?_append hsuf rest
      rw [hq] at hn
      cases h' with
      | named ht hq' h' =>
          rw [ht] at e
          rw [(List.cons.inj e).2, hn] at hq'
          cases hq'
          exact ih (.append suf q) h'
      | opened ht hn' =>
          rw [ht] at e
          rw [(List.cons.inj e).2, hn] at hn'
          cases hn'
      | _ => grind
  | @opened kinds x rest q r negated parts hs hn hq _ ih =>
      have e := (hs ▸ hx.skip hsuf hf).cons
      have hn' := namedClass?_append hsuf rest
      rw [hn] at hn'
      cases h' with
      | named ht hq' =>
          rw [ht] at e
          rw [(List.cons.inj e).2, hn'] at hq'
          cases hq'
      | opened ht _ hq' h' =>
          rw [ht] at e
          rw [(List.cons.inj e).2] at hq'
          exact ih (continued_openBracket hsuf hf (.append suf rest) hq hq') h'
      | _ => grind
  | @done kinds x r hs hk =>
      have e := (hs ▸ hx.skip hsuf hf).cons
      cases h' with
      | done ht =>
          rw [ht] at e
          exact .inl (List.cons.inj e).2
      | _ => grind
  | @closed kinds x rest r kinds' hs hk hne _ ih =>
      have e := (hs ▸ hx.skip hsuf hf).cons
      cases h' with
      | closed ht hk' _ h' =>
          rw [ht] at e
          rw [hk] at hk'
          obtain rfl := (List.cons.inj hk').2
          obtain rfl := (List.cons.inj e).2
          exact ih (.append suf rest) h'
      | _ => grind
  | @operator kinds x rest r c hs hc _ ih =>
      have e := (hs ▸ hx.skip hsuf hf).cons
      cases h' with
      | operator ht _ h' =>
          rw [ht] at e
          obtain rfl := (List.cons.inj (List.cons.inj e).2).2
          exact ih (.append suf rest) h'
      | _ => grind
  | @item kinds x rest q r c part hs hc hop hq _ ih =>
      have e := (hs ▸ hx.skip hsuf hf).cons
      cases h' with
      | operator ht hop' =>
          -- what follows the pattern does not make an operator of its last character
          obtain ⟨rfl, hrest⟩ := List.cons.inj (ht.symm.trans e)
          cases rest with
          | nil =>
              obtain ⟨tail, rfl⟩ := hsuf.head
              rw [(List.cons.inj hrest).1] at hop'
              exact absurd hop' (by decide)
          | cons d more => exact absurd hop' (hop more (by rw [(List.cons.inj hrest).1]))
      | item ht _ _ hq' h' =>
          rw [ht] at e
          rw [e] at hq'
          exact ih (continued_readClassItem hsuf hf (.append suf (c :: rest)) hq hq') h'
      | _ => grind

theorem continued_readBracket (hsuf : Closing suf) (hf : f'.verbose = f.verbose)
    (hx : Continued suf x x') {p p' : ClassPart} (h : readBracket f x = .ok (p, r))
    (h' : readBracket f' x' = .ok (p', r')) : Continued suf r r' := by
  obtain ⟨⟨n, parts, q⟩, hq, h⟩ := ok_of_bind h
  obtain ⟨⟨n', parts', q'⟩, hq', h'⟩ := ok_of_bind h'
  have hruns : ClassRuns f [true] q r := classRuns_of_readClass h
  have hruns' : ClassRuns f' [true] q' r' := classRuns_of_readClass h'
  exact hruns.continued hsuf hf (continued_openBracket hsuf hf hx hq hq') hruns'

end TextMasking.Regex
