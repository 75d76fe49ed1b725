import TextMasking.Proofs.Document.Growth
import TextMasking.Proofs.Masking.PlainText
import TextMasking.Proofs.Masking.Textwise

/-! # Fenced blocks

The lines of a text fall into stretches: a fenced block runs from a fence line through the next one,
or to the end if none comes, and the lines between the blocks stand outside (`Stretches`).  There is
one way to find the blocks (`Stretches.unique`), and the document of a plain text has them: its
texts are stretches of its lines, none is empty, the fenced blocks are those that are excluded, and
no character is lost (`Document.ofPlainText_stretches`). -/

namespace TextMasking

/-- Lines that come one after the other, either those of a fenced block or lines outside of one. -/
structure Stretch where
  fenced : Bool
  lines : List (List Char)
  deriving DecidableEq

namespace Stretch

def text (p : Stretch) : String := String.ofList p.lines.flatten

/-- The texts of stretches are those of their lines. -/
theorem join_text (ps : List Stretch) :
    String.join (ps.map text) = .ofList (ps.flatMap (·.lines)).flatten := by
  induction ps with
  | nil => rfl
  | cons p ps ih =>
      rw [List.map_cons, String.join_cons, ih, List.flatMap_cons, List.flatten_append,
        String.ofList_append]
      rfl

/-- The lines, each with whether it lies outside of fenced blocks. -/
def marked (p : Stretch) : List (Bool × List Char) :=
  p.lines.map fun line => (!p.fenced, line)

end Stretch

/-- The lines are cut where fenced blocks begin and end: a block is opened by a fence line, holds
lines that are none, and is closed by the next fence line or by the end. -/
inductive Stretches : List Stretch → Prop
  | nil : Stretches []
  | plain {lines : List (List Char)} {rest : List Stretch} (hne : lines ≠ [])
      (hlines : ∀ line ∈ lines, Text.isFence line = false) (hrest : Stretches rest) :
      Stretches (⟨false, lines⟩ :: rest)
  | closed {first last : List Char} {inner : List (List Char)} {rest : List Stretch}
      (hfirst : Text.isFence first = true) (hinner : ∀ line ∈ inner, Text.isFence line = false)
      (hlast : Text.isFence last = true) (hrest : Stretches rest) :
      Stretches (⟨true, first :: (inner ++ [last])⟩ :: rest)
  | unclosed {first : List Char} {inner : List (List Char)} (hfirst : Text.isFence first = true)
      (hinner : ∀ line ∈ inner, Text.isFence line = false) :
      Stretches [⟨true, first :: inner⟩]

/-! ### One way to cut -/

/-- The fenced blocks of lines; `block` holds the lines of an open one. -/
def fencedBlocks (block : Option (List (List Char))) : List (List Char) → List Stretch
  | [] => (block.map (⟨true, ·⟩)).toList
  | line :: rest =>
    match block with
    | some block =>
      if Text.isFence line then ⟨true, block ++ [line]⟩ :: fencedBlocks none rest
      else fencedBlocks (some (block ++ [line])) rest
    | none => fencedBlocks (if Text.isFence line then some [line] else none) rest

variable {lines inner rest : List (List Char)} {first last : List Char}

theorem fencedBlocks_open (h : Text.isFence first = true) :
    fencedBlocks none (first :: rest) = fencedBlocks (some [first]) rest := by
  rw [fencedBlocks, h]
  rfl

theorem fencedBlocks_close (h : Text.isFence last = true) (block : List (List Char)) :
    fencedBlocks (some block) (last :: rest) =
      ⟨true, block ++ [last]⟩ :: fencedBlocks none rest := by
  rw [fencedBlocks, if_pos h]

theorem fencedBlocks_plain (h : ∀ line ∈ lines, Text.isFence line = false) :
    fencedBlocks none (lines ++ rest) = fencedBlocks none rest := by
  induction lines with
  | nil => rfl
  | cons line lines ih =>
      obtain ⟨hline, h⟩ := List.forall_mem_cons.mp h
      rw [List.cons_append, fencedBlocks, hline]
      exact ih h

theorem fencedBlocks_inner (h : ∀ line ∈ inner, Text.isFence line = false)
    (block rest : List (List Char)) :
    fencedBlocks (some block) (inner ++ rest) = fencedBlocks (some (block ++ inner)) rest := by
  induction inner generalizing block with
  | nil => rw [List.nil_append, List.append_nil]
  | cons line inner ih =>
      obtain ⟨hline, h⟩ := List.forall_mem_cons.mp h
      rw [List.cons_append, fencedBlocks, hline, if_neg Bool.false_ne_true, ih h,
        List.append_assoc, List.singleton_append]

theorem openLines_append (h : ∀ line ∈ lines, Text.isFence line = false) (fenced : Bool)
    (rest : List (List Char)) :
    openLines fenced (lines ++ rest) =
      lines.map (fun line => (!fenced, line)) ++ openLines fenced rest := by
  induction lines with
  | nil => rfl
  | cons line lines ih =>
      obtain ⟨hline, h⟩ := List.forall_mem_cons.mp h
      rw [List.cons_append, openLines, hline, if_neg Bool.false_ne_true, ih h]
      rfl

namespace Stretches

variable {ps qs : List Stretch}

/-- The fenced stretches are the fenced blocks of the lines. -/
theorem filter_fenced (h : Stretches ps) :
    ps.filter (·.fenced) = fencedBlocks none (ps.flatMap (·.lines)) := by
  induction h with
  | nil => rfl
  | plain hne hlines hrest ih =>
      rw [List.filter_cons_of_neg Bool.false_ne_true, List.flatMap_cons,
        fencedBlocks_plain hlines, ih]
  | closed hfirst hinner hlast hrest ih =>
      rw [List.filter_cons_of_pos rfl, List.flatMap_cons, List.cons_append, List.append_assoc,
        fencedBlocks_open hfirst, fencedBlocks_inner hinner, List.singleton_append,
        List.singleton_append, fencedBlocks_close hlast, ih]
      rfl
  | @unclosed first inner hfirst hinner =>
      have hblock := fencedBlocks_inner hinner [first] []
      rw [List.append_nil] at hblock
      rw [List.filter_cons_of_pos rfl, List.flatMap_singleton, fencedBlocks_open hfirst, hblock]
      rfl

/-- A line lies outside of the fenced stretches if it lies outside of fenced blocks. -/
theorem flatMap_marked (h : Stretches ps) :
    ps.flatMap (·.marked) = openLines false (ps.flatMap (·.lines)) := by
  induction h with
  | nil => rfl
  | plain hne hlines hrest ih =>
      rw [List.flatMap_cons, List.flatMap_cons, openLines_append hlines, ih]
      rfl
  | closed hfirst hinner hlast hrest ih =>
      rw [List.flatMap_cons, List.flatMap_cons, List.cons_append, List.append_assoc, openLines,
        hfirst, if_pos rfl, openLines_append hinner, List.singleton_append, openLines, hlast,
        if_pos rfl, ih]
      simp [Stretch.marked]
  | unclosed hfirst hinner =>
      have := openLines_append hinner true []
      rw [List.append_nil] at this
      rw [List.flatMap_singleton, List.flatMap_singleton, openLines, hfirst, if_pos rfl,
        Bool.not_false, this]
      simp [Stretch.marked, openLines]

/-- A stretch of lines that are not empty is not empty. -/
theorem text_ne_empty (h : Stretches ps) (hlines : ∀ p ∈ ps, ∀ line ∈ p.lines, line ≠ []) :
    ∀ p ∈ ps, p.text ≠ "" := by
  have hne : ∀ p ∈ ps, p.lines ≠ [] := by
    induction h with
    | nil => exact List.forall_mem_nil _
    | plain hne _ _ ih =>
        obtain ⟨-, hlines⟩ := List.forall_mem_cons.mp hlines
        exact List.forall_mem_cons.mpr ⟨hne, ih hlines⟩
    | closed _ _ _ _ ih =>
        obtain ⟨-, hlines⟩ := List.forall_mem_cons.mp hlines
        exact List.forall_mem_cons.mpr ⟨List.cons_ne_nil _ _, ih hlines⟩
    | unclosed _ _ => exact List.forall_mem_singleton.mpr (List.cons_ne_nil _ _)
  intro p hp e
  obtain ⟨line, rest, hl⟩ := List.exists_cons_of_ne_nil (hne p hp)
  rw [Stretch.text, String.ofList_eq_empty_iff, hl, List.flatten_cons, List.append_eq_nil_iff] at e
  exact hlines p hp line (hl ▸ List.mem_cons_self) e.1

/-- **The fenced blocks of lines are the same however the other lines are cut.** -/
theorem unique (hp : Stretches ps) (hq : Stretches qs)
    (h : ps.flatMap (·.lines) = qs.flatMap (·.lines)) :
    ps.filter (·.fenced) = qs.filter (·.fenced) ∧
      ps.flatMap (·.marked) = qs.flatMap (·.marked) := by
  rw [hp.filter_fenced, hq.filter_fenced, hp.flatMap_marked, hq.flatMap_marked, h]
  exact ⟨rfl, rfl⟩

end Stretches

/-! ### Blocks are stretches -/

namespace Block

variable {blocks : List Block}

/-- The blocks are stretches of the lines. -/
def Cuts (blocks : List Block) (lines : List (List Char)) : Prop :=
  ∃ parts, Stretches parts ∧ parts.flatMap (·.lines) = lines ∧
    blocks.map (fun b => (b.content, b.isFenced)) = parts.map fun p => (p.text, p.fenced)

namespace Cuts

theorem nil : Cuts [] [] := ⟨[], .nil, rfl, rfl⟩

/-- A block of lines outside of fenced blocks comes first. -/
theorem plain {b : Block} (hb : b.isFenced = false) (hcontent : b.content = .ofList lines.flatten)
    (hne : lines ≠ []) (hlines : ∀ line ∈ lines, Text.isFence line = false)
    (h : Cuts blocks rest) : Cuts (b :: blocks) (lines ++ rest) := by
  obtain ⟨parts, hparts, rfl, hmap⟩ := h
  refine ⟨⟨false, lines⟩ :: parts, .plain hne hlines hparts, rfl, ?_⟩
  rw [List.map_cons, List.map_cons, hmap, hb, hcontent]
  rfl

/-- The paragraph so far comes first, if there is one. -/
theorem closeParagraph (hlines : ∀ line ∈ lines, line ≠ [] ∧ Text.isFence line = false)
    (h : Cuts blocks rest) :
    Cuts (Block.closeParagraph (.ofList lines.flatten) ++ blocks) (lines ++ rest) := by
  cases lines with
  | nil => exact h
  | cons line lines =>
      have hne : (String.ofList (line :: lines).flatten).isEmpty = false := by
        rw [Bool.eq_false_iff, ne_eq, String.isEmpty_iff, String.ofList_eq_empty_iff,
          List.flatten_cons, List.append_eq_nil_iff]
        exact fun e => (hlines line List.mem_cons_self).1 e.1
      rw [Block.closeParagraph, hne]
      exact plain rfl rfl (List.cons_ne_nil _ _) (fun l hl => (hlines l hl).2) h

/-- A fenced block comes first. -/
theorem closed (hfirst : Text.isFence first = true)
    (hinner : ∀ line ∈ inner, Text.isFence line = false) (hlast : Text.isFence last = true)
    (h : Cuts blocks rest) :
    Cuts (.code (.ofList (first :: (inner ++ [last])).flatten) :: blocks)
      (first :: (inner ++ [last]) ++ rest) := by
  obtain ⟨parts, hparts, rfl, hmap⟩ := h
  refine ⟨⟨true, first :: (inner ++ [last])⟩ :: parts, .closed hfirst hinner hlast hparts, rfl, ?_⟩
  rw [List.map_cons, List.map_cons, hmap]
  rfl

theorem unclosed (hfirst : Text.isFence first = true)
    (hinner : ∀ line ∈ inner, Text.isFence line = false) :
    Cuts [.code (.ofList (first :: inner).flatten)] (first :: inner) :=
  ⟨[⟨true, first :: inner⟩], .unclosed hfirst hinner, List.flatMap_singleton _ _, rfl⟩

end Cuts

theorem ofList_flatten_append (lines : List (List Char)) (line : List Char) :
    String.ofList lines.flatten ++ String.ofList line = .ofList (lines ++ [line]).flatten := by
  rw [← String.ofList_append, List.flatten_append, List.flatten_singleton]

/-- **The blocks of lines are stretches of the lines:** outside of a fenced block after the lines of
a paragraph, and inside of one after its first lines. -/
theorem cuts_ofLines (hlines : ∀ line ∈ lines, line ≠ []) :
    (∀ before : List (List Char), (∀ line ∈ before, line ≠ [] ∧ Text.isFence line = false) →
      Cuts (ofLines (.ofList before.flatten) none lines) (before ++ lines)) ∧
    ∀ (first : List Char) (inner : List (List Char)), Text.isFence first = true →
      (∀ line ∈ inner, Text.isFence line = false) →
        Cuts (ofLines "" (some (.ofList (first :: inner).flatten)) lines)
          (first :: inner ++ lines) := by
  induction lines with
  | nil =>
      constructor
      · intro before hbefore
        exact Cuts.nil.closeParagraph hbefore
      · intro first inner hfirst hinner
        rw [List.append_nil]
        exact .unclosed hfirst hinner
  | cons line lines ih =>
      obtain ⟨hline, hlines⟩ := List.forall_mem_cons.mp hlines
      obtain ⟨ihopen, ihcode⟩ := ih hlines
      have hstart := ihopen [] (List.forall_mem_nil _)
      constructor
      · intro before hbefore
        rw [ofLines_open]
        split_ifs with hfence hblank
        · have := ihcode line [] hfence (List.forall_mem_nil _)
          rw [List.flatten_singleton] at this
          exact this.closeParagraph hbefore
        · rw [Bool.not_eq_true] at hfence
          have hcontent : (blank (.ofList line)).content = .ofList [line].flatten := by
            rw [content, List.flatten_singleton]
          exact Cuts.closeParagraph hbefore (Cuts.plain rfl hcontent (List.cons_ne_nil _ _)
            (List.forall_mem_singleton.mpr hfence) hstart)
        · rw [Bool.not_eq_true] at hfence
          rw [ofList_flatten_append, List.append_cons before line lines]
          refine ihopen _ fun l hl => ?_
          rcases List.mem_append.mp hl with hl | hl
          · exact hbefore l hl
          · rw [List.mem_singleton.mp hl]
            exact ⟨hline, hfence⟩
      · intro first inner hfirst hinner
        rw [ofLines_code, ofList_flatten_append, List.cons_append, List.cons_append]
        split_ifs with hfence
        · have := hstart.closed hfirst hinner hfence
          rwa [List.cons_append, List.append_assoc, List.singleton_append] at this
        · rw [Bool.not_eq_true] at hfence
          have := ihcode first (inner ++ [line]) hfirst fun l hl => by
            rcases List.mem_append.mp hl with hl | hl
            · exact hinner l hl
            · rw [List.mem_singleton.mp hl]
              exact hfence
          rwa [List.cons_append, List.append_assoc, List.singleton_append] at this

theorem cuts_ofText (s : String) : Cuts (ofText s) (Text.lines s.toList) := by
  exact (cuts_ofLines fun line h => Text.ne_nil_of_mem_cutFrom h).1 [] (List.forall_mem_nil _)

/-! ### The texts of blocks -/

/-- A text, and whether it lies in an excluded element. -/
def unitText (p : NodeId × TextUnit) : String × Bool :=
  (p.2.passage.text, p.2.above.any fun a => excludes a.tag a.attributes)

/-- A block has one text, which is excluded if the block is fenced. -/
theorem exists_unitText_toForest (b : Block) (next : NodeId) (before : String) (g : Forest) :
    ∃ before', (((b.toForest next).1 ++ g).unitsFrom [body] before).map unitText =
      (b.content, b.isFenced) :: (g.unitsFrom [body] before').map unitText := by
  cases b with
  | paragraph s =>
      refine ⟨"", congrArg₂ List.cons ?_ rfl⟩
      simp [unitText, content, isFenced, body, not_excludes_p, not_excludes_body]
  | blank s =>
      refine ⟨before ++ s, congrArg₂ List.cons ?_ rfl⟩
      simp [unitText, content, isFenced, body, not_excludes_body]
  | code s =>
      refine ⟨"", congrArg₂ List.cons ?_ rfl⟩
      simp [unitText, content, isFenced, body, excludes_code]

theorem unitText_forestOf (next : NodeId) (before : String) (blocks : List Block) :
    ((forestOf next blocks).1.unitsFrom [body] before).map unitText =
      blocks.map fun b => (b.content, b.isFenced) := by
  induction blocks generalizing next before with
  | nil => rfl
  | cons b blocks ih =>
      obtain ⟨before', h⟩ := exists_unitText_toForest b next before
        (forestOf (b.toForest next).2 blocks).1
      rw [forestOf, List.map_cons, h, ih]

/-- The nodes of blocks show the characters of the blocks. -/
theorem shown_forestOf (next : NodeId) (blocks : List Block) :
    (forestOf next blocks).1.shown = String.join (blocks.map content) := by
  induction blocks generalizing next with
  | nil => rfl
  | cons b blocks ih =>
      rw [forestOf, List.map_cons, String.join_cons, Forest.shown_append, ih]
      cases b <;> simp [toForest, Forest.shown, content]

end Block

namespace Document

/-- The texts of a document whose root is its only tree are those below the root. -/
theorem map_textIds_root {d : Document} (wf : d.WellFormed) {t : Forest} (ht : d.trees = [t])
    (hroot : d.tree? root = some t) :
    (d.textIds root).map (fun id => (d.text? id, d.excluded id)) =
      (d.units.map Block.unitText).map fun p => (some p.1, p.2) := by
  have hids : d.textIds root = d.units.map Prod.fst := by
    rw [textIds, hroot, units_eq, ht]
    simp
  rw [hids, List.map_map, List.map_map]
  refine List.map_congr_left fun p hp => ?_
  obtain ⟨place, s, hplace, hnode, hu⟩ := wf.exists_place_of_mem_units hp
  simp only [Function.comp_apply]
  rw [text?, tree?_of_place? hplace, hnode, excluded, hplace, Block.unitText, hu]
  simp [Forest.Place.excluded, hnode, Forest.headExcluded, Forest.Place.toUnit]

/-- **A plain text becomes a document without loss, and its fenced blocks are excluded:** the texts
of the document are the stretches of its lines, and none is empty. -/
theorem ofPlainText_stretches (s : String) :
    ∃ parts, Stretches parts ∧ parts.flatMap (·.lines) = Text.lines s.toList ∧
      (∀ others, Stretches others → others.flatMap (·.lines) = Text.lines s.toList →
        others.filter (·.fenced) = parts.filter (·.fenced) ∧
          others.flatMap (·.marked) = parts.flatMap (·.marked)) ∧
      let d := ofPlainText s
      (d.textIds root).map (fun id => (d.text? id, d.excluded id)) =
          parts.map (fun p => (some p.text, p.fenced)) ∧
        (∀ id ∈ d.textIds root, d.text? id ≠ some "") ∧ d.shown root = s ∧ d.log = [] := by
  let d := ofPlainText s
  have hbody : d.Body _ := ⟨wellFormed_ofPlainText s, List.mem_singleton_self _⟩
  obtain ⟨parts, hparts, hlines, hmap⟩ := Block.cuts_ofText s
  have htexts : (d.textIds root).map (fun id => (d.text? id, d.excluded id)) =
      parts.map fun p => (some p.text, p.fenced) := by
    have hunits : d.units.map Block.unitText = parts.map fun p => (p.text, p.fenced) := by
      rw [← hmap, ← Block.unitText_forestOf (root + 1) "" (Block.ofText s)]
      simp [d, units, ofPlainText, Forest.unitsFrom, Block.body]
    rw [map_textIds_root hbody.wellFormed rfl hbody.tree?_root, hunits, List.map_map]
    rfl
  refine ⟨parts, hparts, hlines, ?_, htexts, ?_, ?_, rfl⟩
  · intro others hothers he
    exact hothers.unique hparts (he.trans hlines.symm)
  · intro id hid htext
    have hmem := List.mem_map_of_mem (f := fun id => (d.text? id, d.excluded id)) hid
    rw [htexts] at hmem
    obtain ⟨p, hp, e⟩ := List.mem_map.mp hmem
    rw [htext, Prod.mk.injEq, Option.some.injEq] at e
    refine hparts.text_ne_empty (fun q hq line hline => ?_) p hp e.1
    refine Text.ne_nil_of_mem_cutFrom (hlines ▸ List.mem_flatMap.mpr ⟨q, hq, hline⟩)
  · have hcontent : (Block.ofText s).map Block.content = parts.map Stretch.text := by
      have := congrArg (List.map Prod.fst) hmap
      rwa [List.map_map, List.map_map] at this
    rw [hbody.shown, Block.shown_forestOf, hcontent, Stretch.join_text, hlines, Text.flatten_lines,
      String.ofList_toList]

/-- Text right before a fence, a blank line, and a block that is not closed. -/
example :
    let d := ofPlainText "a\n  ~~~x\n```\n\n```"
    (d.textIds root).map (fun id => (d.text? id, d.excluded id)) =
      [(some "a\n", false), (some "  ~~~x\n```\n", true), (some "\n", false),
        (some "```", true)] := by
  decide +kernel

end Document

end TextMasking
