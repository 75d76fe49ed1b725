import TextMasking.Proofs.Regex.Classes
import TextMasking.Proofs.Regex.Extended

/-! # Bracketed classes in longer texts

A class of a pattern is complete within it, so it is read alike if the pattern goes on
(`Regex.readBracket_append`).  What letter case changes are the sets of its parts, and not how deep
they are nested (`Regex.ClassPart.shape`). -/

namespace TextMasking.Regex

open Unicode

/-- The part, with no set in particular if letter case may differ. -/
def ClassPart.shape (fold : Bool) (p : ClassPart) : ClassPart := ⟨p.set.shape fold, p.depth⟩

/-- The frame, with no sets in particular if letter case may differ. -/
def ClassFrame.shape (fold : Bool) : ClassFrame → ClassFrame
  | .bracket outer negated => .bracket (outer.map (·.shape fold)) negated
  | .operator op left => .operator op (left.shape fold)

variable {suf x r : List Char} {t : List Char → List Char} {fold : Bool} {f f' : Flags}

theorem ClassPart.shape_congr {s s' : CharSet} {d d' : Nat} (hs : s'.shape fold = s.shape fold)
    (hd : d' = d) : ClassPart.shape fold ⟨s', d'⟩ = ClassPart.shape fold ⟨s, d⟩ := by
  rw [shape, shape, hs, hd]

theorem ClassPart.map_shape_false {ps ps' : List ClassPart}
    (h : ps'.map (·.shape false) = ps.map (·.shape false)) : ps' = ps := by
  have hid : (ClassPart.shape false) = id := rfl
  rwa [hid, List.map_id, List.map_id] at h

theorem map_cons_congr {α β : Type} {g : α → β} {a a' : α} {l l' : List α} (ha : g a' = g a)
    (hl : l'.map g = l.map g) : (a' :: l').map g = (a :: l).map g :=
  List.cons_eq_cons.mpr ⟨ha, hl⟩

/-! ### Operands -/

theorem depth_unionParts (ps : List ClassPart) : (unionParts ps).depth =
    match ps.map (·.depth) with
    | [] => 0
    | [d] => d
    | ds => 1 + ds.foldl max 0 := by
  match ps with
  | [] => rfl
  | [_] => rfl
  | _ :: _ :: _ => rfl

theorem shape_unionParts {ps ps' : List ClassPart}
    (h : ps'.map (·.shape fold) = ps.map (·.shape fold)) :
    (unionParts ps').shape fold = (unionParts ps).shape fold := by
  cases fold with
  | false => rw [ClassPart.map_shape_false h]
  | true =>
      have hdepth : ps'.map (·.depth) = ps.map (·.depth) := by
        have := congrArg (List.map ClassPart.depth) h
        rwa [List.map_map, List.map_map] at this
      have h := depth_unionParts ps'
      rw [hdepth, ← depth_unionParts] at h
      exact ClassPart.shape_congr rfl h

theorem shape_joinParts (hf : f.Alike fold f') (op : ClassOp) {a a' b b' : ClassPart}
    (ha : a'.shape fold = a.shape fold) (hb : b'.shape fold = b.shape fold) :
    (joinParts f' op a' b').shape fold = (joinParts f op a b).shape fold := by
  have hda : a'.depth = a.depth := (ClassPart.mk.inj ha).2
  have hdb : b'.depth = b.depth := (ClassPart.mk.inj hb).2
  refine ClassPart.shape_congr ?_ (by rw [hda, hdb])
  cases fold with
  | true => rfl
  | false => rw [hf.eq_of_false, show a' = a from ha, show b' = b from hb]

theorem shape_endOperator (hf : f.Alike fold f') {p p' : ClassPart}
    (hp : p'.shape fold = p.shape fold) {frames frames' : List ClassFrame}
    (h : frames'.map (·.shape fold) = frames.map (·.shape fold)) :
    (endOperator f' p' frames').1.shape fold = (endOperator f p frames).1.shape fold ∧
      (endOperator f' p' frames').2.map (·.shape fold) =
        (endOperator f p frames).2.map (·.shape fold) := by
  match frames, frames' with
  | [], [] => exact ⟨hp, rfl⟩
  | .bracket .. :: _, .bracket .. :: _ => exact ⟨hp, h⟩
  | .operator op left :: frames, .operator op' left' :: frames' =>
      obtain ⟨hframe, hframes⟩ := List.cons.inj h
      obtain ⟨rfl, hleft⟩ := ClassFrame.operator.inj hframe
      exact ⟨shape_joinParts hf op' hleft hp, hframes⟩
  | .bracket .. :: _, .operator .. :: _ => cases (List.cons.inj h).1
  | .operator .. :: _, .bracket .. :: _ => cases (List.cons.inj h).1

/-! ### Openings -/

theorem hyphens_append {parts p : List ClassPart} {c : Char}
    (h : openBracket.hyphens f parts x = (p, c :: r)) (hsuf : Closing suf)
    (hf : f'.verbose = f.verbose) :
    openBracket.hyphens f' parts (x ++ suf) = (p, c :: (r ++ suf)) := by
  induction x generalizing parts with
  | nil =>
      rw [openBracket.hyphens, skip_nil] at h
      · cases h
      · simp
  | cons d x ih =>
      by_cases hd : d = '-'
      · subst hd
        exact ih h
      · have hstop (f : Flags) (y : List Char) :
            openBracket.hyphens f parts (d :: y) = (parts, f.skip (d :: y)) := by
          rw [openBracket.hyphens]
          exact fun rest e => hd (List.cons.inj e).1
        rw [hstop] at h
        rw [List.cons_append, hstop]
        obtain ⟨rfl, hskip⟩ := Prod.mk.inj h
        rw [← List.cons_append, skip_append hskip hsuf hf]

/-- The start of a bracket, after its hyphens. -/
def startParts (f : Flags) (negated : Bool) (parts : List ClassPart) :
    List Char → Except SyntaxError (Bool × List ClassPart × List Char)
  | [] => .error .unclosedClass
  | ']' :: rest =>
    if parts.isEmpty then
      if (f.skip rest).isEmpty then .error .unclosedClass
      else .ok (negated, [⟨.char ']', 0⟩], f.skip rest)
    else .ok (negated, parts, ']' :: rest)
  | input => .ok (negated, parts, input)

theorem openBracket_eq (f : Flags) (x : List Char) : openBracket f x =
    startParts f ((f.skip x).head? == some '^')
      (openBracket.hyphens f [] (afterCaret f (f.skip x))).1
      (openBracket.hyphens f [] (afterCaret f (f.skip x))).2 := by
  unfold openBracket
  split
  rename_i negated y hcaret
  have hy : negated = ((f.skip x).head? == some '^') ∧ y = afterCaret f (f.skip x) := by
    split at hcaret
    · rename_i rest hx
      cases hcaret
      rw [hx]
      exact ⟨rfl, rfl⟩
    · rename_i hne
      cases hcaret
      refine ⟨?_, (by rw [afterCaret]; exact hne)⟩
      cases hx : f.skip x with
      | nil => rfl
      | cons c rest =>
          have hc : c ≠ '^' := by
            rintro rfl
            exact hne rest hx
          simpa using hc
  rw [← hy.1, ← hy.2]
  generalize openBracket.hyphens f [] y = q
  obtain ⟨parts, z⟩ := q
  dsimp only
  split
  · rfl
  · rw [startParts]
    split_ifs <;> rfl
  · rename_i hne hclose
    rw [startParts]
    · rfl
    · exact hne
    · exact hclose

theorem startParts_append {negated n : Bool} {p parts : List ClassPart} {c : Char}
    (h : startParts f negated p (c :: x) = .ok (n, parts, r)) (hsuf : Closing suf)
    (hf : f'.verbose = f.verbose) :
    startParts f' negated p (c :: (x ++ suf)) = .ok (n, parts, r ++ suf) := by
  by_cases hc : c = ']'
  · subst hc
    rw [startParts] at h ⊢
    cases hp : p.isEmpty with
    | false =>
        rw [hp] at h
        cases h
        rfl
    | true =>
        rw [hp] at h
        cases hx : f.skip x with
        | nil =>
            rw [hx] at h
            cases h
        | cons d y =>
            rw [hx] at h
            rw [skip_append hx hsuf hf]
            cases h
            rfl
  · have hother (f : Flags) (y : List Char) :
        startParts f negated p (c :: y) = .ok (negated, p, c :: y) := by
      rw [startParts]
      · simp
      · exact fun rest e => hc (List.cons.inj e).1
    rw [hother] at h ⊢
    cases h
    rfl

/-- Where something is left after the caret of a bracket, the same is left of the longer text. -/
theorem afterCaret_append {c : Char} (h : afterCaret f x = c :: r) (hsuf : Closing suf)
    (hf : f'.verbose = f.verbose) : afterCaret f' (x ++ suf) = c :: (r ++ suf) := by
  cases x with
  | nil => cases h
  | cons d x =>
      by_cases hd : d = '^'
      · subst hd
        exact skip_append h hsuf hf
      · have hother (f : Flags) (y : List Char) : afterCaret f (d :: y) = d :: y := by
          rw [afterCaret]
          exact fun rest e => hd (List.cons.inj e).1
        rw [hother] at h
        rw [List.cons_append, hother]
        cases h
        rfl

theorem openBracket_append {negated : Bool} {parts : List ClassPart}
    (h : openBracket f x = .ok (negated, parts, r)) (hsuf : Closing suf)
    (hf : f'.verbose = f.verbose) :
    openBracket f' (x ++ suf) = .ok (negated, parts, r ++ suf) := by
  rw [openBracket_eq] at h ⊢
  generalize hq : openBracket.hyphens f [] (afterCaret f (f.skip x)) = q at h
  obtain ⟨p, y⟩ := q
  have hhyphens (f : Flags) : openBracket.hyphens f [] [] = ([], []) := by
    rw [openBracket.hyphens, skip_nil]
    simp
  cases y with
  | nil => cases h
  | cons c y =>
      cases hcaret : afterCaret f (f.skip x) with
      | nil =>
          rw [hcaret, hhyphens] at hq
          cases hq
      | cons d z =>
          cases hx : f.skip x with
          | nil =>
              rw [hx] at hcaret
              cases hcaret
          | cons e w =>
              rw [hcaret] at hq
              rw [hx] at hcaret h
              have hcaret' := afterCaret_append hcaret hsuf hf
              have hq' := hyphens_append hq hsuf hf
              rw [List.cons_append] at hcaret' hq'
              rw [skip_append hx hsuf hf, hcaret', hq']
              exact startParts_append h hsuf hf

/-! ### Items -/

theorem rest_readClassAtom (fold : Bool) {a : Atom} (h : readClassAtom f x = .ok (a, r)) :
    ReadsAlike fold (·.shape fold) readClassAtom f x a r := by
  cases x with
  | nil => cases h
  | cons c x =>
      by_cases hc : c = '\\'
      · subst hc
        exact rest_readEscape fold h
      · have hrest (f : Flags) (y : List Char) :
            readClassAtom f (c :: y) = .ok (.literal c false, y) := by
          rw [readClassAtom]
          exact hc
        rw [hrest] at h
        cases h
        exact ⟨_, .kept, fun {suf f'} _ _ => ⟨.literal c false, hrest f' _, rfl⟩⟩

/-- The part that an atom makes if it is not the end of a range. -/
def Atom.single (f : Flags) : Atom → Except SyntaxError ClassPart
  | .literal c _ => (classLiteral f c).map fun c => ⟨.char c, 0⟩
  | .set s => .ok ⟨s, 0⟩
  | .assert _ => .error .classItem

/-- The range between two atoms. -/
def Atom.range (f : Flags) : Atom → Atom → Except SyntaxError ClassPart
  | .literal a _, .literal b _ => do
    let a ← classLiteral f a
    let b ← classLiteral f b
    if b < a then throw .classRange
    return ⟨.range a b, 0⟩
  | _, _ => .error .classRange

theorem Atom.eq_literal_of_shape {a : Atom} {c : Char} {asByte : Bool}
    (h : a.shape fold = .literal c asByte) : a = .literal c asByte := by
  cases a with
  | set s => cases h
  | _ => exact h

theorem Atom.exists_set_of_shape {a : Atom} {s : CharSet}
    (h : a.shape fold = (Atom.set s).shape fold) :
    ∃ s', a = .set s' ∧ s'.shape fold = s.shape fold := by
  cases a with
  | set s' => exact ⟨s', rfl, Atom.set.inj h⟩
  | _ => cases h

theorem classLiteral_congr (hf : f'.unicode = f.unicode) (c : Char) :
    classLiteral f' c = classLiteral f c := by
  rw [classLiteral, classLiteral, hf]

theorem single_alike {a a' : Atom} {p : ClassPart} (h : a.single f = .ok p) (hf : f.Alike fold f')
    (ha : a'.shape fold = a.shape fold) :
    ∃ p', a'.single f' = .ok p' ∧ p'.shape fold = p.shape fold := by
  cases a with
  | literal c asByte =>
      obtain rfl := Atom.eq_literal_of_shape ha
      rw [Atom.single, classLiteral_congr hf.unicode]
      exact ⟨p, h, rfl⟩
  | set s =>
      obtain ⟨s', rfl, hs⟩ := Atom.exists_set_of_shape ha
      cases h
      exact ⟨_, rfl, ClassPart.shape_congr hs rfl⟩
  | assert e => cases h

theorem range_alike {a a' b b' : Atom} {p : ClassPart} (h : a.range f b = .ok p)
    (hf : f.Alike fold f') (ha : a'.shape fold = a.shape fold)
    (hb : b'.shape fold = b.shape fold) : a'.range f' b' = .ok p := by
  cases a with
  | literal c asByte =>
      cases b with
      | literal d asByte' =>
          obtain rfl := Atom.eq_literal_of_shape ha
          obtain rfl := Atom.eq_literal_of_shape hb
          rw [Atom.range, classLiteral_congr hf.unicode, classLiteral_congr hf.unicode]
          exact h
      | _ => cases h
  | _ => cases h

/-- The rest of an item of a class, after its first atom and the space that follows. -/
def afterAtom (f : Flags) (a : Atom) : List Char → Except SyntaxError (ClassPart × List Char)
  | [] => .error .unclosedClass
  | '-' :: after =>
    if peekPastSpace f false after = some ']' || peekPastSpace f false after = some '-' then do
      return (← a.single f, '-' :: after)
    else if (f.skip after).isEmpty then .error .unclosedClass
    else do
      let (b, rest) ← readClassAtom f (f.skip after)
      return (← a.range f b, rest)
  | rest => do return (← a.single f, rest)

theorem readClassItem_eq (f : Flags) (x : List Char) : readClassItem f x = (do
    let (a, rest) ← readClassAtom f x
    afterAtom f a (f.skip rest)) := by
  unfold readClassItem
  cases readClassAtom f x with
  | error e => rfl
  | ok q =>
      obtain ⟨a, rest⟩ := q
      simp only [bind, Except.bind]
      generalize f.skip rest = y
      split
      · rfl
      · rename_i after
        rw [afterAtom]
        split_ifs
        · rfl
        · rfl
        · simp only [bind, Except.bind]
          cases readClassAtom f (f.skip after) with
          | error e => rfl
          | ok q =>
              obtain ⟨b, rest⟩ := q
              cases a with
              | literal c asByte =>
                  cases b with
                  | literal d asByte' =>
                      simp only [Atom.range, bind, Except.bind]
                      cases classLiteral f c with
                      | error e => rfl
                      | ok c =>
                          cases classLiteral f d with
                          | error e => rfl
                          | ok d =>
                              dsimp only
                              split_ifs <;> rfl
                  | _ => rfl
              | _ => rfl
      · rename_i hne hhyphen
        rw [afterAtom]
        · rfl
        · exact hne
        · exact hhyphen

theorem rest_afterAtom (fold : Bool) {a : Atom} {c : Char} {p : ClassPart}
    (h : afterAtom f a (c :: x) = .ok (p, r)) : ∃ t, Rest r t ∧
      ∀ {suf : List Char} {f' : Flags} {a' : Atom}, Closing suf → f.Alike fold f' →
        a'.shape fold = a.shape fold →
          ∃ p', afterAtom f' a' (c :: (x ++ suf)) = .ok (p', t suf) ∧
            p'.shape fold = p.shape fold := by
  by_cases hc : c = '-'
  · subst hc
    rw [afterAtom] at h
    split_ifs at h with hpeek hempty
    · obtain ⟨p, hp, h⟩ := ok_of_bind h
      cases h
      refine ⟨_, .kept, fun {suf f' a'} hsuf hf ha => ?_⟩
      obtain ⟨p', hp', hpart⟩ := single_alike hp hf ha
      refine ⟨p', ?_, hpart⟩
      have hpeek' : peekPastSpace f' false (x ++ suf) = some ']' ∨
          peekPastSpace f' false (x ++ suf) = some '-' := by
        rw [peekPastSpace_congr hf.verbose, peekPastSpace_append hsuf]
        simp only [Bool.or_eq_true, decide_eq_true_eq] at hpeek
        rcases hpeek with hpeek | hpeek
        all_goals simp [hpeek]
      rw [afterAtom, if_pos (by simpa using hpeek'), hp']
      rfl
    · obtain ⟨⟨b, q⟩, hq, h⟩ := ok_of_bind h
      obtain ⟨p, hp, h⟩ := ok_of_bind h
      cases h
      obtain ⟨t, ht, hatom⟩ := rest_readClassAtom fold hq
      obtain ⟨d, y, hy⟩ := List.exists_cons_of_ne_nil (l := f.skip x) (by simpa using hempty)
      refine ⟨t, ht, fun {suf f' a'} hsuf hf ha => ?_⟩
      obtain ⟨b', hb', hshape⟩ := hatom hsuf hf
      refine ⟨p, ?_, rfl⟩
      have hpeek' : ¬(peekPastSpace f' false (x ++ suf) = some ']' ∨
          peekPastSpace f' false (x ++ suf) = some '-') := by
        rw [peekPastSpace_congr hf.verbose, peekPastSpace_append hsuf]
        cases hpast : peekPastSpace f false x with
        | none => simp
        | some e => simpa [hpast] using hpeek
      rw [hy, List.cons_append] at hb'
      rw [afterAtom, if_neg (by simpa using hpeek'), skip_append hy hsuf hf.verbose, hb',
        if_neg (by simp)]
      simp only [bind, Except.bind, range_alike hp hf ha hshape]
      rfl
  · have hother (f : Flags) (a : Atom) (y : List Char) :
        afterAtom f a (c :: y) = (do return (← a.single f, c :: y)) := by
      rw [afterAtom]
      · simp
      · exact fun rest e => hc (List.cons.inj e).1
    rw [hother] at h
    obtain ⟨p, hp, h⟩ := ok_of_bind h
    cases h
    refine ⟨_, .kept, fun {suf f' a'} hsuf hf ha => ?_⟩
    obtain ⟨p', hp', hpart⟩ := single_alike hp hf ha
    refine ⟨p', ?_, hpart⟩
    rw [hother, hp']
    rfl

theorem rest_readClassItem (fold : Bool) {p : ClassPart} (h : readClassItem f x = .ok (p, r)) :
    ReadsAlike fold (·.shape fold) readClassItem f x p r := by
  rw [readClassItem_eq] at h
  obtain ⟨⟨a, q⟩, hq, h⟩ := ok_of_bind h
  obtain ⟨t₁, ht₁, hatom⟩ := rest_readClassAtom fold hq
  obtain ⟨t₂, ht₂, hskip⟩ := ht₁.skip f
  dsimp only at h
  cases hy : f.skip q with
  | nil =>
      rw [hy] at h
      cases h
  | cons c y =>
      rw [hy] at h ht₂
      obtain ⟨t, ht, hafter⟩ := rest_afterAtom fold h
      refine ⟨t, ht, fun {suf f'} hsuf hf => ?_⟩
      obtain ⟨a', ha', hshape⟩ := hatom hsuf hf
      rw [readClassItem_eq, ha']
      dsimp only [bind, Except.bind]
      rw [hskip hsuf hf.verbose, ht₂.cons]
      exact hafter hsuf hf hshape

/-! ### Whole classes -/

/-- The operator of a class at the start of a text, and what follows it. -/
def ClassOp.atStart? : List Char → Option (ClassOp × List Char)
  | '&' :: '&' :: rest => some (.inter, rest)
  | '-' :: '-' :: rest => some (.diff, rest)
  | '~' :: '~' :: rest => some (.either, rest)
  | _ => none

theorem ClassOp.atStart?_append (hsuf : Closing suf) (c : Char) (x : List Char) :
    atStart? (c :: (x ++ suf)) = (atStart? (c :: x)).map fun (op, rest) => (op, rest ++ suf) := by
  cases x with
  | nil =>
      obtain ⟨s, rfl⟩ := hsuf.head
      have hnone (y : List Char) (hy : ∀ z, y ≠ '&' :: z ∧ y ≠ '-' :: z ∧ y ≠ '~' :: z) :
          atStart? (c :: y) = none := by
        rw [atStart?]
        · exact fun rest e => (hy rest).1 (List.cons.inj e).2
        · exact fun rest e => (hy rest).2.1 (List.cons.inj e).2
        · exact fun rest e => (hy rest).2.2 (List.cons.inj e).2
      rw [hnone [] (by simp), List.nil_append, hnone _ (by simp)]
      rfl
  | cons d x =>
      rw [List.cons_append]
      by_cases h : c = d ∧ (c = '&' ∨ c = '-' ∨ c = '~')
      · obtain ⟨rfl, rfl | rfl | rfl⟩ := h
        all_goals rfl
      · have hnone (y : List Char) : atStart? (c :: d :: y) = none := by
          rw [atStart?]
          all_goals
            rintro rest ⟨⟩
            exact h (by decide)
        rw [hnone, hnone]
        rfl

/-- What a class has after one thing more was read of it: all, or what is to be read on with. -/
inductive ClassNext
  | done (part : ClassPart)
  | more (frames : List ClassFrame) (parts : List ClassPart)

/-- The same, with no sets in particular if letter case may differ. -/
def ClassNext.shape (fold : Bool) : ClassNext → ClassNext
  | .done part => .done (part.shape fold)
  | .more frames parts => .more (frames.map (·.shape fold)) (parts.map (·.shape fold))

theorem ClassNext.shape_congr {frames frames' : List ClassFrame} {parts parts' : List ClassPart}
    (hframes : frames'.map (·.shape fold) = frames.map (·.shape fold))
    (hparts : parts'.map (·.shape fold) = parts.map (·.shape fold)) :
    (more frames' parts').shape fold = (more frames parts).shape fold := by
  rw [shape, shape, hframes, hparts]

/-- An operator of a class takes what was read before it as its left side. -/
def afterOperator (f : Flags) (frames : List ClassFrame) (parts : List ClassPart) (op : ClassOp) :
    ClassNext :=
  .more (.operator op (endOperator f (unionParts parts) frames).1 ::
    (endOperator f (unionParts parts) frames).2) []

/-- The bracket that a class is in is closed. -/
def closeBracket (f : Flags) (all : ClassPart) : List ClassFrame → Except SyntaxError ClassNext
  | .bracket outer negated :: frames => do
    let part : ClassPart := ⟨← f.finishSet negated all.set, 1 + all.depth⟩
    return if frames.isEmpty then .done part else .more frames (part :: outer)
  | _ => .error .unclosedClass

/-- A class within a class is read, or opened. -/
def openClass (f : Flags) (frames : List ClassFrame) (parts : List ClassPart) (x : List Char) :
    Except SyntaxError (ClassNext × List Char) :=
  match namedClass? x with
  | some (s, negated, rest) => do
    return (.more frames (⟨← f.finishSet negated s, 0⟩ :: parts), rest)
  | none => do
    let (negated, inner, rest) ← openBracket f x
    return (.more (.bracket parts negated :: frames) inner, rest)

/-- One thing of a class is read. -/
def classStep (f : Flags) (frames : List ClassFrame) (parts : List ClassPart) :
    List Char → Except SyntaxError (ClassNext × List Char)
  | [] => .error .unclosedClass
  | '[' :: rest => openClass f frames parts rest
  | ']' :: rest => do
    return (← closeBracket f (endOperator f (unionParts parts) frames).1
      (endOperator f (unionParts parts) frames).2, rest)
  | input =>
    match ClassOp.atStart? input with
    | some (op, rest) => .ok (afterOperator f frames parts op, rest)
    | none => do
      let (part, rest) ← readClassItem f input
      return (.more frames (part :: parts), rest)

/-- What is read after a step. -/
def ClassNext.run (f : Flags) (steps : Nat) (rest : List Char) :
    ClassNext → Except SyntaxError (ClassPart × List Char)
  | .done part => .ok (part, rest)
  | .more frames parts => readClass f steps frames parts rest

theorem readClass_succ (f : Flags) (k : Nat) (frames : List ClassFrame) (parts : List ClassPart)
    (x : List Char) : readClass f (k + 1) frames parts x = (do
      let (next, rest) ← classStep f frames parts (f.skip x)
      next.run f k rest) := by
  rw [readClass]
  generalize f.skip x = y
  dsimp only
  split
  · rfl
  · rename_i rest
    rw [classStep, openClass]
    cases namedClass? rest with
    | none => cases openBracket f rest <;> rfl
    | some q =>
        obtain ⟨s, negated, rest⟩ := q
        dsimp only
        cases f.finishSet negated s <;> rfl
  · rw [classStep]
    generalize endOperator f (unionParts parts) frames = q
    obtain ⟨all, frames⟩ := q
    cases frames with
    | nil => rfl
    | cons frame frames =>
        cases frame with
        | operator op left => rfl
        | bracket outer negated =>
            rw [closeBracket]
            dsimp only
            cases f.finishSet negated all.set with
            | error e => rfl
            | ok s =>
                simp only [bind, Except.bind, pure, Except.pure]
                split_ifs <;> rfl
  · rfl
  · rfl
  · rfl
  · rename_i hne hbracket hclose hinter hdiff heither
    have hop : ClassOp.atStart? y = none := by
      rw [ClassOp.atStart?]
      all_goals assumption
    rw [classStep]
    · rw [hop]
      cases readClassItem f y <;> rfl
    all_goals assumption

theorem closeBracket_alike (hf : f.Alike fold f') {all all' : ClassPart}
    (hall : all'.shape fold = all.shape fold) {frames frames' : List ClassFrame}
    (hframes : frames'.map (·.shape fold) = frames.map (·.shape fold)) {n : ClassNext}
    (h : closeBracket f all frames = .ok n) :
    ∃ n', closeBracket f' all' frames' = .ok n' ∧ n'.shape fold = n.shape fold := by
  match frames, frames' with
  | .bracket outer negated :: frames, .bracket outer' negated' :: frames' =>
      obtain ⟨hframe, hmore⟩ := List.cons.inj hframes
      obtain ⟨houter, rfl⟩ := ClassFrame.bracket.inj hframe
      obtain ⟨hset, hdepth⟩ := ClassPart.mk.inj hall
      obtain ⟨u, hu, h⟩ := ok_of_bind h
      obtain ⟨u', hu', hset⟩ := hf.finishSet hset hu
      cases h
      have hpart : ClassPart.shape fold ⟨u', 1 + all'.depth⟩ =
          ClassPart.shape fold ⟨u, 1 + all.depth⟩ :=
        ClassPart.shape_congr hset (by rw [hdepth])
      have hempty : frames'.isEmpty = frames.isEmpty := by
        rw [← List.isEmpty_map, hmore, List.isEmpty_map]
      rw [closeBracket, hu', ← hempty]
      refine ⟨_, rfl, ?_⟩
      split_ifs
      · exact congrArg ClassNext.done hpart
      · exact ClassNext.shape_congr hmore (map_cons_congr hpart houter)
  | .bracket .. :: _, .operator .. :: _ => cases (List.cons.inj hframes).1
  | .bracket .. :: _, [] => cases hframes
  | .operator .. :: _, _ => cases h
  | [], _ => cases h

theorem openClass_alike (hsuf : Closing suf) (hf : f.Alike fold f')
    {frames frames' : List ClassFrame} {parts parts' : List ClassPart}
    (hframes : frames'.map (·.shape fold) = frames.map (·.shape fold))
    (hparts : parts'.map (·.shape fold) = parts.map (·.shape fold)) {n : ClassNext}
    (h : openClass f frames parts x = .ok (n, r)) :
    ∃ n', openClass f' frames' parts' (x ++ suf) = .ok (n', r ++ suf) ∧
      n'.shape fold = n.shape fold := by
  have hnamed := namedClass?_append hsuf x
  rw [openClass] at h ⊢
  rw [hnamed]
  cases hq : namedClass? x with
  | none =>
      rw [hq] at h
      obtain ⟨⟨negated, inner, q⟩, hq, h⟩ := ok_of_bind h
      cases h
      rw [Option.map_none, openBracket_append hq hsuf hf.verbose]
      refine ⟨_, rfl, ClassNext.shape_congr (map_cons_congr ?_ hframes) rfl⟩
      exact congrArg (ClassFrame.bracket · negated) hparts
  | some q =>
      obtain ⟨s, negated, q⟩ := q
      rw [hq] at h
      obtain ⟨u, hu, h⟩ := ok_of_bind h
      cases h
      obtain ⟨u', hu', hset⟩ : ∃ u', f'.finishSet negated s = .ok u' ∧
          u'.shape fold = u.shape fold := hf.finishSet rfl hu
      dsimp only [Option.map_some]
      rw [hu']
      refine ⟨_, rfl, ClassNext.shape_congr hframes (map_cons_congr ?_ hparts)⟩
      exact ClassPart.shape_congr hset rfl

/-- One thing of a class is read alike; the class does not end with what leaves a comment open. -/
theorem rest_classStep (fold : Bool) {c : Char} {frames : List ClassFrame}
    {parts : List ClassPart} {n : ClassNext}
    (h : classStep f frames parts (c :: x) = .ok (n, r)) :
    ∃ t, Rest r t ∧ (∀ p, n = .done p → t = (r ++ ·)) ∧
      ∀ {suf : List Char} {f' : Flags} {frames' : List ClassFrame} {parts' : List ClassPart},
        Closing suf → f.Alike fold f' →
        frames'.map (·.shape fold) = frames.map (·.shape fold) →
        parts'.map (·.shape fold) = parts.map (·.shape fold) →
          ∃ n', classStep f' frames' parts' (c :: (x ++ suf)) = .ok (n', t suf) ∧
            n'.shape fold = n.shape fold := by
  by_cases hopen : c = '['
  · subst hopen
    exact ⟨_, .kept, fun _ _ => rfl, fun hsuf hf hframes hparts =>
      openClass_alike hsuf hf hframes hparts h⟩
  · by_cases hclose : c = ']'
    · subst hclose
      obtain ⟨n, hn, h⟩ := ok_of_bind h
      cases h
      refine ⟨_, .kept, fun _ _ => rfl, fun {suf f' frames' parts'} _ hf hframes hparts => ?_⟩
      obtain ⟨hall, hframes⟩ := shape_endOperator hf (shape_unionParts hparts) hframes
      obtain ⟨n', hn', hshape⟩ := closeBracket_alike hf hall hframes hn
      refine ⟨n', ?_, hshape⟩
      rw [classStep, hn']
      rfl
    · have hother (f : Flags) (frames : List ClassFrame) (parts : List ClassPart) (y : List Char) :
          classStep f frames parts (c :: y) =
            match ClassOp.atStart? (c :: y) with
            | some (op, rest) => .ok (afterOperator f frames parts op, rest)
            | none => do
              let (part, rest) ← readClassItem f (c :: y)
              return (.more frames (part :: parts), rest) := by
        rw [classStep]
        · simp
        · exact fun rest e => hopen (List.cons.inj e).1
        · exact fun rest e => hclose (List.cons.inj e).1
      rw [hother] at h
      cases hop : ClassOp.atStart? (c :: x) with
      | some q =>
          obtain ⟨op, rest⟩ := q
          rw [hop] at h
          cases h
          refine ⟨_, .kept, fun _ _ => rfl,
            fun {suf f' frames' parts'} hsuf hf hframes hparts => ?_⟩
          obtain ⟨hall, hframes⟩ := shape_endOperator hf (shape_unionParts hparts) hframes
          rw [hother, ClassOp.atStart?_append hsuf, hop]
          refine ⟨_, rfl, ClassNext.shape_congr (map_cons_congr ?_ hframes) rfl⟩
          exact congrArg (ClassFrame.operator op) hall
      | none =>
          rw [hop] at h
          obtain ⟨⟨part, q⟩, hq, h⟩ := ok_of_bind h
          cases h
          obtain ⟨t, ht, hitem⟩ := rest_readClassItem fold hq
          refine ⟨t, ht, fun _ h => (by cases h),
            fun {suf f' frames' parts'} hsuf hf hframes hparts => ?_⟩
          obtain ⟨part', hpart', hshape⟩ := hitem hsuf hf
          rw [List.cons_append] at hpart'
          rw [hother, ClassOp.atStart?_append hsuf, hop, Option.map_none, hpart']
          exact ⟨_, rfl, ClassNext.shape_congr hframes (map_cons_congr hshape hparts)⟩

/-- A class of a pattern is read alike, with the same rest and then the text after the pattern. -/
theorem readClass_append (hsuf : Closing suf) (hf : f.Alike fold f') {steps steps' : Nat}
    (hsteps : steps ≤ steps') {frames frames' : List ClassFrame} {parts parts' : List ClassPart}
    (hframes : frames'.map (·.shape fold) = frames.map (·.shape fold))
    (hparts : parts'.map (·.shape fold) = parts.map (·.shape fold)) (hx : Rest x t)
    {p : ClassPart} (h : readClass f steps frames parts x = .ok (p, r)) :
    ∃ p', readClass f' steps' frames' parts' (t suf) = .ok (p', r ++ suf) ∧
      p'.shape fold = p.shape fold := by
  induction steps generalizing steps' frames frames' parts parts' x t with
  | zero => cases h
  | succ steps ih =>
      obtain ⟨steps', rfl⟩ : ∃ k, steps' = k + 1 := ⟨steps' - 1, by omega⟩
      rw [readClass_succ] at h
      obtain ⟨⟨n, q⟩, hstep, h⟩ := ok_of_bind h
      obtain ⟨t₁, ht₁, hskip⟩ := hx.skip f
      cases hy : f.skip x with
      | nil =>
          rw [hy] at hstep
          cases hstep
      | cons c y =>
          rw [hy] at hstep ht₁
          obtain ⟨t₂, ht₂, hdone, hnext⟩ := rest_classStep fold hstep
          obtain ⟨n', hn', hshape⟩ := hnext hsuf hf hframes hparts
          rw [readClass_succ, hskip hsuf hf.verbose, ht₁.cons, hn']
          cases n with
          | done part =>
              cases n' with
              | more _ _ => cases hshape
              | done part' =>
                  rw [hdone part rfl]
                  cases h
                  exact ⟨part', rfl, ClassNext.done.inj hshape⟩
          | more frames parts =>
              cases n' with
              | done _ => cases hshape
              | more frames' parts' =>
                  obtain ⟨hframes, hparts⟩ := ClassNext.more.inj hshape
                  exact ih (Nat.le_of_succ_le_succ hsteps) hframes hparts ht₂ h

/-- **A bracketed class of a pattern is read alike in a longer text.** -/
theorem readBracket_append (hsuf : Closing suf) (hf : f.Alike fold f') {p : ClassPart}
    (h : readBracket f x = .ok (p, r)) :
    ∃ p', readBracket f' (x ++ suf) = .ok (p', r ++ suf) ∧ p'.shape fold = p.shape fold := by
  obtain ⟨⟨negated, parts, q⟩, hq, h⟩ := ok_of_bind h
  have hsteps : q.length + 1 ≤ (q ++ suf).length + 1 := by simp
  obtain ⟨p', hp', hshape⟩ := readClass_append hsuf hf hsteps rfl rfl .kept h
  refine ⟨p', ?_, hshape⟩
  rw [readBracket, openBracket_append hq hsuf hf.verbose]
  exact hp'

end TextMasking.Regex
