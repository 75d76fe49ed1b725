import TextMasking.Proofs.Masking.WordPass
import TextMasking.Proofs.Text.Lines

/-! # Plain texts line by line

A plain text is taken apart into blocks, and a pass of words makes of each block what they make of
its text, or leaves it as it is (`Block.shows_forestOf`).  A paragraph comes to what its lines come
to, so the whole text does (`Block.concat_ofLines`): each line that lies outside of fenced blocks
(`openLines`) is masked by itself.  The other lines are those of the fenced blocks
(`Block.fencing_ofText`). -/

namespace TextMasking

open Unicode

namespace Rendering

/-- Renderings one behind the other. -/
def concat (rs : List Rendering) : Rendering := rs.foldr (· ++ ·) (text [])

@[simp] theorem concat_nil : concat [] = text [] := rfl

@[simp] theorem concat_cons (r : Rendering) (rs : List Rendering) :
    concat (r :: rs) = r ++ concat rs := rfl

theorem concat_append (rs rs' : List Rendering) : concat (rs ++ rs') = concat rs ++ concat rs' := by
  induction rs with
  | nil => rw [List.nil_append, concat_nil, text_nil_append]
  | cons r rs ih => rw [List.cons_append, concat_cons, concat_cons, ih, append_assoc]

end Rendering

/-- The lines of a text, each with whether it lies outside of fenced blocks; `fenced` says whether
the text begins inside of one. -/
def openLines (fenced : Bool) : List (List Char) → List (Bool × List Char)
  | [] => []
  | line :: rest =>
    if Text.isFence line then (false, line) :: openLines (!fenced) rest
    else (!fenced, line) :: openLines fenced rest

theorem openLines_cons (fenced : Bool) (line : List Char) (rest : List (List Char)) :
    openLines fenced (line :: rest) =
      (!fenced && !Text.isFence line, line) :: openLines (fenced ^^ Text.isFence line) rest := by
  rw [openLines]
  cases Text.isFence line <;> cases fenced <;> rfl

/-- What becomes of a line: it is masked if it lies outside of fenced blocks. -/
def Rendering.ofLine (rules : List Rule) (p : Bool × List Char) : Rendering :=
  (if p.1 then ofText rules p.2 else text p.2) ++ text ['\n']

/-! ### Lines -/

/-- A line feed at its end does not make a line a fence. -/
theorem isFence_line (line : List Char) : Text.isFence (line ++ ['\n']) = Text.isFence line := by
  have hstarts (mark cs : List Char) (hmark : '\n' ∉ mark) :
      mark.isPrefixOf (cs ++ ['\n']) = mark.isPrefixOf cs := by
    rw [Bool.eq_iff_iff, List.isPrefixOf_iff_prefix, List.isPrefixOf_iff_prefix,
      List.prefix_concat_iff]
    refine or_iff_right fun e => hmark ?_
    rw [e]
    exact List.mem_append_right cs List.mem_cons_self
  rw [Text.isFence, Text.isFence, Text.trimStartChars, Text.trimStartChars, List.dropWhile_append]
  split_ifs with h
  · rw [List.isEmpty_iff.mp h]
    decide
  · rw [hstarts _ _ (by decide), hstarts _ _ (by decide)]

section

variable {rules : List Rule} {limit : Nat}

@[simp] theorem ofText_nil (hw : ∀ r ∈ rules, r.IsWord) : Rendering.ofText rules [] = .text [] :=
  (ofWords_self hw [] 0 0).2

theorem sparseText_nil (hw : ∀ r ∈ rules, r.IsWord) : SparseText limit rules [] :=
  (ofWords_self hw [] 0 limit).1

theorem ofText_of_blank (hw : ∀ r ∈ rules, r.IsWord) {cs : List Char} (h : cs.all isBlank = true)
    (limit : Nat) : Rendering.ofText rules cs = .text cs ∧ SparseText limit rules cs := by
  have hall : ∀ i c, 0 ≤ i → i < cs.length → cs[i]? = some c → isBlank c = true :=
    fun i c _ _ hc => List.all_eq_true.mp h c (List.mem_of_getElem? hc)
  obtain ⟨hsame, hsparse⟩ := ofWords_of_blank hw hall limit
  rw [List.extract_eq_take_drop, List.drop_zero, Nat.sub_zero, List.take_length] at hsame
  exact ⟨hsame, hsparse⟩

theorem ofLine_of_open (hw : ∀ r ∈ rules, r.IsWord) (line : List Char) :
    Rendering.ofLine rules (true, line) = .ofText rules (line ++ ['\n']) := by
  rw [Rendering.ofText_newline hw, ofText_nil hw, Rendering.append_text_nil]
  rfl

/-- Nothing, or lines with their ends. -/
def WholeLines (cs : List Char) : Prop := cs = [] ∨ ∃ a, cs = a ++ ['\n']

theorem WholeLines.ofText_append {cs : List Char} (h : WholeLines cs)
    (hw : ∀ r ∈ rules, r.IsWord) (rest : List Char) :
    Rendering.ofText rules (cs ++ rest) = .ofText rules cs ++ .ofText rules rest := by
  obtain rfl | ⟨a, rfl⟩ := h
  · rw [List.nil_append, ofText_nil hw, Rendering.text_nil_append]
  · rw [List.append_assoc, List.singleton_append, Rendering.ofText_newline hw,
      Rendering.ofText_newline hw, ofText_nil hw, Rendering.append_text_nil,
      Rendering.append_assoc]

theorem WholeLines.sparseText_line {cs line rest : List Char} (h : WholeLines cs)
    (hw : ∀ r ∈ rules, r.IsWord)
    (hs : SparseText limit rules (cs ++ (line ++ '\n' :: rest))) :
    SparseText limit rules line := by
  refine (SparseText.of_newline hw (b := rest) ?_).1
  obtain rfl | ⟨a, rfl⟩ := h
  · exact hs
  · rw [List.append_assoc, List.singleton_append] at hs
    exact (hs.of_newline hw).2

end

/-! ### Blocks -/

namespace Block

variable {rules : List Rule} {limit : Nat}

/-- What becomes of a block. -/
def rendering (rules : List Rule) : Block → Rendering
  | .paragraph s => .ofText rules s.toList
  | .blank s => .text s.toList
  | .code s => .text s.toList

/-- No rule is given up in the block. -/
def Sparse (limit : Nat) (rules : List Rule) : Block → Prop
  | .paragraph s => SparseText limit rules s.toList
  | _ => True

/-- A blank block is blank. -/
def Proper : Block → Prop
  | .blank s => s.toList.all isBlank = true
  | _ => True

theorem concat_closeParagraph (hw : ∀ r ∈ rules, r.IsWord) (p : String) :
    Rendering.concat ((closeParagraph p).map (rendering rules)) = .ofText rules p.toList := by
  rw [closeParagraph]
  split_ifs with h
  · rw [String.isEmpty_iff.mp h]
    exact (ofText_nil hw).symm
  · exact Rendering.append_text_nil _

/-- A line inside of a fenced block; a fence closes it. -/
theorem ofLines_code (paragraph block : String) (line : List Char) (rest : List (List Char)) :
    ofLines paragraph (some block) (line :: rest) =
      if Text.isFence line then .code (block ++ String.ofList line) :: ofLines paragraph none rest
      else ofLines paragraph (some (block ++ String.ofList line)) rest := rfl

/-- A line outside of fenced blocks; a fence opens one. -/
theorem ofLines_open (paragraph : String) (line : List Char) (rest : List (List Char)) :
    ofLines paragraph none (line :: rest) =
      if Text.isFence line then
        closeParagraph paragraph ++ ofLines "" (some (String.ofList line)) rest
      else if line.all isBlank then
        closeParagraph paragraph ++ .blank (String.ofList line) :: ofLines "" none rest
      else ofLines (paragraph ++ String.ofList line) none rest := rfl

theorem wholeLines_append (paragraph : String) (line : List Char) :
    (paragraph ++ String.ofList (line ++ ['\n'])).toList =
        paragraph.toList ++ (line ++ ['\n']) ∧
      WholeLines (paragraph ++ String.ofList (line ++ ['\n'])).toList := by
  have hmore : (paragraph ++ String.ofList (line ++ ['\n'])).toList =
      paragraph.toList ++ (line ++ ['\n']) := by
    rw [String.toList_append, String.toList_ofList]
  exact ⟨hmore, .inr ⟨paragraph.toList ++ line, by rw [hmore, List.append_assoc]⟩⟩

theorem all_isBlank_line (line : List Char) :
    (line ++ ['\n']).all isBlank = line.all isBlank := by
  rw [List.all_append, Bool.and_eq_left_iff_imp]
  exact fun _ => by decide

theorem sparseText_of_closeParagraph (hw : ∀ r ∈ rules, r.IsWord) {p : String}
    (h : ∀ b ∈ closeParagraph p, b.Sparse limit rules) : SparseText limit rules p.toList := by
  rw [closeParagraph] at h
  split_ifs at h with hempty
  · rw [String.isEmpty_iff.mp hempty]
    exact sparseText_nil hw
  · exact h _ List.mem_cons_self

/-- **The blocks of lines come to what the lines come to.** -/
theorem concat_ofLines (hw : ∀ r ∈ rules, r.IsWord) (lines : List (List Char)) {paragraph : String}
    {code : Option String} (hp : WholeLines paragraph.toList)
    (hc : code.isSome → paragraph = "") :
    Rendering.concat
        ((ofLines paragraph code (lines.map (· ++ ['\n']))).map (rendering rules)) =
      .ofText rules paragraph.toList ++ (.text (code.getD "").toList ++
        .concat ((openLines code.isSome lines).map (.ofLine rules))) := by
  induction lines generalizing paragraph code with
  | nil =>
      rw [List.map_nil, ofLines, List.map_append, Rendering.concat_append,
        concat_closeParagraph hw]
      cases code <;> rfl
  | cons line lines ih =>
      rw [List.map_cons, openLines]
      cases code with
      | some block =>
          obtain rfl := hc rfl
          rw [ofLines_code, isFence_line]
          split_ifs with hfence
          · rw [List.map_cons, Rendering.concat_cons, ih hp (fun h => by cases h)]
            simp [rendering, ofText_nil hw, Rendering.ofLine, ← Rendering.append_assoc,
              Rendering.text_append]
          · rw [ih hp fun _ => rfl]
            simp [ofText_nil hw, Rendering.ofLine, ← Rendering.append_assoc,
              Rendering.text_append]
      | none =>
          rw [ofLines_open, isFence_line, all_isBlank_line]
          split_ifs with hfence hblank
          · rw [List.map_append, Rendering.concat_append, concat_closeParagraph hw,
              ih (.inl rfl) fun _ => rfl]
            simp [ofText_nil hw, Rendering.ofLine, ← Rendering.append_assoc,
              Rendering.text_append]
          · have hsame := (ofText_of_blank hw hblank 0).1
            rw [List.map_append, Rendering.concat_append, concat_closeParagraph hw, List.map_cons,
              Rendering.concat_cons, ih (.inl rfl) (fun h => by cases h)]
            simp [rendering, ofText_nil hw, Rendering.ofLine, hsame, ← Rendering.append_assoc,
              Rendering.text_append]
          · obtain ⟨hmore, hwhole⟩ := wholeLines_append paragraph line
            rw [ih hwhole (fun h => by cases h), hmore, hp.ofText_append hw, ← ofLine_of_open hw]
            simp [← Rendering.append_assoc]

/-- If no rule is given up in the blocks, none is given up in a line that lies outside of fenced
blocks. -/
theorem sparse_of_ofLines (hw : ∀ r ∈ rules, r.IsWord) (lines : List (List Char))
    {paragraph : String} {code : Option String} (hp : WholeLines paragraph.toList)
    (hs : ∀ b ∈ ofLines paragraph code (lines.map (· ++ ['\n'])), b.Sparse limit rules) :
    (code = none → ∃ rest, SparseText limit rules (paragraph.toList ++ rest)) ∧
      ∀ p ∈ openLines code.isSome lines, p.1 = true → SparseText limit rules p.2 := by
  induction lines generalizing paragraph code with
  | nil =>
      refine ⟨fun _ => ⟨[], ?_⟩, List.forall_mem_nil _⟩
      exact (List.append_nil _).symm ▸
        sparseText_of_closeParagraph hw fun b hb => hs b (List.mem_append_left _ hb)
  | cons line lines ih =>
      rw [openLines]
      cases code with
      | some block =>
          refine ⟨nofun, ?_⟩
          rw [List.map_cons, ofLines_code, isFence_line] at hs
          split_ifs at hs ⊢ with hfence
          · exact List.forall_mem_cons.mpr
              ⟨nofun, (ih hp (List.forall_mem_cons.mp hs).2).2⟩
          · exact List.forall_mem_cons.mpr ⟨nofun, (ih hp hs).2⟩
      | none =>
          rw [List.map_cons, ofLines_open, isFence_line, all_isBlank_line] at hs
          split_ifs at hs ⊢ with hfence hblank
          · obtain ⟨hclosed, hrest⟩ := List.forall_mem_append.mp hs
            refine ⟨fun _ => ⟨[], ?_⟩, List.forall_mem_cons.mpr
              ⟨nofun, (ih (.inl rfl) hrest).2⟩⟩
            exact (List.append_nil _).symm ▸ sparseText_of_closeParagraph hw hclosed
          · obtain ⟨hclosed, hrest⟩ := List.forall_mem_append.mp hs
            have hline := (ofText_of_blank hw hblank limit).2
            refine ⟨fun _ => ⟨[], ?_⟩, List.forall_mem_cons.mpr ⟨fun _ => hline,
              (ih (.inl rfl) (List.forall_mem_cons.mp hrest).2).2⟩⟩
            exact (List.append_nil _).symm ▸ sparseText_of_closeParagraph hw hclosed
          · obtain ⟨hmore, hwhole⟩ := wholeLines_append paragraph line
            obtain ⟨hparagraph, hrest⟩ := ih hwhole hs
            obtain ⟨rest, hparagraph⟩ := hparagraph rfl
            rw [hmore, List.append_assoc, List.append_assoc, List.singleton_append] at hparagraph
            exact ⟨fun _ => ⟨_, hparagraph⟩, List.forall_mem_cons.mpr
              ⟨fun _ => hp.sparseText_line hw hparagraph, hrest⟩⟩

/-- The blocks of a text come to what its lines come to. -/
theorem concat_ofText (hw : ∀ r ∈ rules, r.IsWord) {s : String} {lines : List (List Char)}
    (hlines : Text.lines s.toList = lines.map (· ++ ['\n'])) :
    Rendering.concat ((ofText s).map (rendering rules)) =
      .concat ((openLines false lines).map (.ofLine rules)) := by
  rw [ofText, hlines, concat_ofLines hw lines (.inl rfl) (fun h => by cases h)]
  simp [ofText_nil hw]

/-! ### Fenced lines -/

/-- Whether the block is a fenced one. -/
def isFenced : Block → Bool
  | .paragraph _ => false
  | .blank _ => false
  | .code _ => true

/-- Marks for the lines of a text. -/
def marks (fenced : Bool) (s : String) : List Bool :=
  (Text.lines s.toList).map fun _ => fenced

@[simp] theorem marks_empty (fenced : Bool) : marks fenced "" = [] := rfl

theorem marks_append_line (fenced : Bool) {s : String} (hs : WholeLines s.toList)
    {line : List Char} (h : '\n' ∉ line) :
    marks fenced (s ++ String.ofList (line ++ ['\n'])) = marks fenced s ++ [fenced] := by
  rw [marks, (wholeLines_append s line).1, Text.lines_append_line hs h, List.map_append]
  rfl

/-- Whether the lines of the block are fenced. -/
def fencing (b : Block) : List Bool := marks b.isFenced b.content

theorem fencing_closeParagraph (p : String) :
    (closeParagraph p).flatMap fencing = marks false p := by
  rw [closeParagraph]
  split_ifs with h
  · rw [String.isEmpty_iff.mp h]
    rfl
  · exact List.flatMap_singleton _ _

/-- **The fenced lines of the blocks** are those that do not lie outside of fenced blocks. -/
theorem fencing_ofLines (lines : List (List Char)) (hlines : ∀ line ∈ lines, '\n' ∉ line)
    (paragraph : String) (code : Option String) (hp : WholeLines paragraph.toList)
    (hcode : WholeLines (code.getD "").toList) (hc : code.isSome → paragraph = "") :
    (ofLines paragraph code (lines.map (· ++ ['\n']))).flatMap fencing =
      marks false paragraph ++ (marks true (code.getD "") ++
        (openLines code.isSome lines).map fun p => !p.1) := by
  have hempty : WholeLines "".toList := .inl rfl
  induction lines generalizing paragraph code with
  | nil =>
      rw [List.map_nil, ofLines, List.flatMap_append, fencing_closeParagraph]
      cases code with
      | none => rfl
      | some block =>
          exact congrArg _ ((List.flatMap_singleton _ _).trans (List.append_nil _).symm)
  | cons line lines ih =>
      obtain ⟨hline, hlines⟩ := List.forall_mem_cons.mp hlines
      rw [List.map_cons, openLines]
      cases code with
      | some block =>
          obtain rfl := hc rfl
          rw [Option.getD_some] at hcode ⊢
          have hmore := marks_append_line true hcode hline
          have hwhole := (wholeLines_append block line).2
          rw [ofLines_code, isFence_line]
          generalize block ++ String.ofList (line ++ ['\n']) = more at hmore hwhole ⊢
          split_ifs with hfence
          · rw [List.flatMap_cons, ih hlines _ none hp hempty nofun, fencing, isFenced,
              content, hmore]
            simp
          · rw [ih hlines _ (some more) hp hwhole fun _ => rfl, Option.getD_some, hmore]
            simp
      | none =>
          have hmore := marks_append_line false hp hline
          have hwhole := (wholeLines_append paragraph line).2
          have hsingle (fenced : Bool) := marks_append_line fenced hempty hline
          have hsingleWhole := (wholeLines_append "" line).2
          simp only [String.empty_append, marks_empty, List.nil_append] at hsingle hsingleWhole
          rw [ofLines_open, isFence_line, all_isBlank_line]
          generalize String.ofList (line ++ ['\n']) = next at hmore hwhole hsingle hsingleWhole ⊢
          split_ifs with hfence hblank
          · rw [List.flatMap_append, fencing_closeParagraph,
              ih hlines _ (some next) hempty hsingleWhole fun _ => rfl, Option.getD_some,
              hsingle]
            simp
          · rw [List.flatMap_append, fencing_closeParagraph, List.flatMap_cons,
              ih hlines _ none hempty hempty nofun, fencing, isFenced, content, hsingle]
            simp
          · rw [ih hlines _ none hwhole hempty nofun, hmore]
            simp

/-- The fenced lines of a text. -/
theorem fencing_ofText {s : String} {lines : List (List Char)}
    (hlines : Text.lines s.toList = lines.map (· ++ ['\n'])) (h : ∀ line ∈ lines, '\n' ∉ line) :
    (ofText s).flatMap fencing = (openLines false lines).map fun p => !p.1 := by
  rw [ofText, hlines, fencing_ofLines lines h _ none (.inl rfl) (.inl rfl) nofun]
  rfl

/-! ### Passes over blocks -/

theorem proper_of_mem_ofLines (lines : List (List Char)) {paragraph : String}
    {code : Option String} : ∀ b ∈ ofLines paragraph code lines, b.Proper := by
  have hclose (p : String) : ∀ b ∈ closeParagraph p, b.Proper := by
    rw [closeParagraph]
    split_ifs
    · exact List.forall_mem_nil _
    · exact List.forall_mem_singleton.mpr trivial
  induction lines generalizing paragraph code with
  | nil =>
      refine List.forall_mem_append.mpr ⟨hclose paragraph, ?_⟩
      cases code with
      | none => exact List.forall_mem_nil _
      | some block => exact List.forall_mem_singleton.mpr trivial
  | cons line lines ih =>
      cases code with
      | some block =>
          rw [ofLines_code]
          split_ifs
          · exact List.forall_mem_cons.mpr ⟨trivial, ih⟩
          · exact ih
      | none =>
          rw [ofLines_open]
          split_ifs with hfence hblank
          · exact List.forall_mem_append.mpr ⟨hclose paragraph, ih⟩
          · refine List.forall_mem_append.mpr ⟨hclose paragraph, List.forall_mem_cons.mpr ⟨?_, ih⟩⟩
            rw [Proper, String.toList_ofList]
            exact hblank
          · exact ih

open Turn (overNode yield)
open Outcome (ofForest)

theorem not_excludes_body : excludes "body" [] = false := by decide

theorem not_excludes_p : excludes "p" [] = false := by decide

theorem excludes_code : excludes "code" [] = true := by decide

/-- The root of a plain text. -/
def body : Forest.Ancestor := ⟨Document.root, "body", []⟩

variable {options : Options} {n : NodeId} {before after : String}

/-- **What comes of a block** below the root. -/
theorem shows_toForest (hrules : ∀ r ∈ rules, r.IsFound) {b : Block} (hb : b.Proper)
    (next : NodeId) :
    (ofForest (yield options n (overNode Document.root (rules.map Matcher.ofLiteral))) [body]
      before after (b.toForest next).1).Shows (b.Sparse options.maxMatches rules)
        (b.rendering rules) := by
  have hdone {o : Outcome} {P : Prop} {r : Rendering} (h : o.Shows P r) :
      (o ++ ⟨.nil, []⟩).Shows P r := by
    have := h.append (.of_leaves .nil trivial Forest.rendering_nil)
    rw [Rendering.append_text_nil] at this
    exact this.of_iff (and_iff_left trivial)
  cases b with
  | paragraph s =>
      rw [toForest, Outcome.ofForest_element, Outcome.ofForest_text]
      refine hdone ((hdone (Turn.shows_yield_alone hrules ⟨?_, ?_, ?_⟩ rfl)).element next "p" [])
      · simp [body, not_excludes_p, not_excludes_body]
      · exact List.mem_cons_of_mem _ List.mem_cons_self
      · exact List.mem_cons_of_mem _ List.mem_cons_self
  | blank s =>
      rw [toForest, Outcome.ofForest_text]
      refine hdone (Turn.shows_yield_blank hrules ⟨?_, ?_, ?_⟩ hb)
      · simp [body, not_excludes_body]
      · exact List.mem_cons_self
      · exact List.mem_cons_self
  | code s =>
      rw [toForest, Outcome.ofForest_element, Outcome.ofForest_element, Outcome.ofForest_text,
        Turn.yield_of_excluded (by simp [excludes_code])]
      refine hdone ((hdone ((hdone (.of_leaves _ trivial ?_)).element _ _ _)).element _ _ _)
      exact Forest.rendering_leaf_text _ _

/-- **What comes of blocks** below the root. -/
theorem shows_forestOf (hrules : ∀ r ∈ rules, r.IsFound) {blocks : List Block}
    (hblocks : ∀ b ∈ blocks, b.Proper) (next : NodeId) :
    (ofForest (yield options n (overNode Document.root (rules.map Matcher.ofLiteral))) [body]
      before after (forestOf next blocks).1).Shows (∀ b ∈ blocks, b.Sparse options.maxMatches rules)
        (.concat (blocks.map (rendering rules))) := by
  induction blocks generalizing next before with
  | nil => exact .of_leaves .nil (List.forall_mem_nil _) Forest.rendering_nil
  | cons b blocks ih =>
      obtain ⟨hb, hblocks⟩ := List.forall_mem_cons.mp hblocks
      rw [forestOf]
      dsimp only
      rw [Outcome.ofForest_append, List.forall_mem_cons, List.map_cons, Rendering.concat_cons]
      exact (shows_toForest hrules hb next).append (ih hblocks _)

end Block

open Turn (overNode yield)
open Outcome (ofForest)

namespace Engine

variable {e : Engine} {rules : List Rule}

/-- What the turns of a pass make of a plain text. -/
theorem shows_ofPlainText (hrules : ∀ r ∈ rules, r.IsFound)
    (he : e.matchers.matchers = rules.map Matcher.ofLiteral) (s : String) :
    (ofForest (yield e.options (Document.ofPlainText s).fresh
      (overNode Document.root e.matchers.matchers)) [Block.body] "" ""
        (Block.forestOf (Document.root + 1) (Block.ofText s)).1).Shows
      (∀ b ∈ Block.ofText s, b.Sparse e.options.maxMatches rules)
      (.concat ((Block.ofText s).map (Block.rendering rules))) := by
  rw [he]
  exact Block.shows_forestOf hrules (Block.proper_of_mem_ofLines _) _

/-- **A pass over a plain text** makes of it what it makes of its lines, and if no rule is given up
in it, none is given up in a line that lies outside of fenced blocks. -/
theorem apply_ofPlainText (hrules : ∀ r ∈ rules, r.IsFound)
    (he : e.matchers.matchers = rules.map Matcher.ofLiteral) {s : String}
    {lines : List (List Char)} (hlines : Text.lines s.toList = lines.map (· ++ ['\n']))
    (hskip : (e.apply (Document.ofPlainText s) Document.root).2.scanSkips = []) :
    let pass := e.apply (Document.ofPlainText s) Document.root
    let r := Rendering.concat ((openLines false lines).map (.ofLine rules))
    (pass.1.shown Document.root).toList = r.shown ∧ pass.2.masksCreated = r.masks ∧
      ∀ p ∈ openLines false lines, p.1 = true → SparseText e.options.maxMatches rules p.2 := by
  intro pass r
  have hw : ∀ r ∈ rules, r.IsWord := fun r hr => (hrules r hr).isWord
  have hbody : (Document.ofPlainText s).Body _ :=
    ⟨Document.wellFormed_ofPlainText s, List.mem_singleton_self _⟩
  have hself := Tracks.self hbody.wellFormed
  have hlt : Document.root < (Document.ofPlainText s).fresh := hself.pos
  have hclean := hself.clean_of_apply hlt (.inl rfl) hskip
  obtain ⟨g, hg, hblur, hmasks⟩ := apply_root hbody hlt (.inl rfl) hclean
  have hshows := shows_ofPlainText hrules he s
  have hsparse : ∀ b ∈ Block.ofText s, b.Sparse e.options.maxMatches rules := by
    refine hshows.clean.mp fun scan hscan => hclean scan ?_
    refine List.mem_flatMap.mpr ⟨_, hbody.mem_trees, ?_⟩
    rw [Forest.textsIn, List.flatMap_append]
    exact List.mem_append_left _ hscan
  have hrendering : g.rendering = r := by
    calc g.rendering = (g.blur (Document.ofPlainText s).fresh).rendering :=
          (Forest.rendering_blur _ _).symm
      _ = .concat ((Block.ofText s).map (Block.rendering rules)) := by
          rw [hblur]
          exact hshows.rendering hsparse
      _ = r := Block.concat_ofText hw hlines
  rw [Block.maskIds_forestOf, List.length_nil, Nat.zero_add] at hmasks
  rw [Block.ofText, hlines] at hsparse
  refine ⟨?_, hmasks.symm.trans (congrArg Rendering.masks hrendering),
    (Block.sparse_of_ofLines hw lines (.inl rfl) hsparse).2⟩
  rw [hg.shown]
  exact congrArg Rendering.shown hrendering

end Engine

end TextMasking
