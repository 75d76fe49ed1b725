import TextMasking.Proofs.Masking.PlainText
import TextMasking.Proofs.Masking.Steps
import TextMasking.Proofs.Session.Coverage

/-! # Texts that come line by line

A line that is pushed on a stream comes to what the line comes to (`LineStream.Growing.pushed`), and
so do lines that are pushed one after the other (`LineStream.Growing.pushedAll`).  The document of
the stream holds the lines so far below its root: what is open at its end is the fenced block, if
there is one, and a line outside of fenced blocks is a paragraph of its own, over which one pass is
run (`Engine.apply_paragraph`). -/

namespace TextMasking

open Turn (overNode yield)

namespace Document

theorem log_replaceText {d d' : Document} {id : NodeId} {fragments : List Fragment}
    {new : List NodeId} (h : d.replaceText id fragments = .ok (new, d')) : d'.log = d.log := by
  rw [replaceText] at h
  split at h
  · cases h
  · split at h
    · split_ifs at h
      cases h
      rfl
    · cases h

end Document

/-- Passes are not logged. -/
theorem Engine.log_apply (e : Engine) (d : Document) (x : NodeId) :
    (e.apply d x).1.log = d.log := by
  have hreplace (m : Matcher) (fs : List Finding) (state : Document × Report) :
      (fs.foldl m.replaceFound state).1.log = state.1.log := by
    refine List.foldlRecOn fs m.replaceFound
      (motive := fun s : Document × Report => s.1.log = state.1.log) rfl ?_
    intro s hs f _
    rw [← hs, Matcher.replaceFound]
    split
    · rename_i h
      exact Document.log_replaceText h
    · rfl
  rw [apply]
  refine List.foldlRecOn e.matchers.matchers _
    (motive := fun s : Document × Report => s.1.log = d.log) rfl ?_
  intro s hs m _
  rw [← hs, Matcher.apply]
  dsimp only
  cases m.findings e.options (s.1.passages x e.options) with
  | error fault => rfl
  | ok fs => exact hreplace m fs s

/-- The root keeps its place when a text is replaced. -/
theorem Document.Body.exists_replaceText {d d' : Document} {f : Forest} {id : NodeId}
    {fragments : List Fragment} {new : List NodeId} (h : d.Body f)
    (hrep : d.replaceText id fragments = .ok (new, d')) : ∃ g, d'.Body g := by
  obtain ⟨place, s, -, -, -, -, htrees, -⟩ := replaceText_cases hrep
  refine ⟨Forest.splice id (Fragment.toForest d.fresh fragments) f,
    (Extends.replaceText h.wellFormed hrep).wellFormed h.wellFormed, ?_⟩
  rw [htrees]
  exact List.mem_append_left _ (List.mem_map_of_mem (f := Forest.splice id _) h.mem_trees)

/-- The root keeps its place in a pass. -/
theorem Engine.exists_body_apply (e : Engine) {d : Document} {f : Forest} (h : d.Body f)
    (x : NodeId) : ∃ g, (e.apply d x).1.Body g :=
  Engine.keeps (P := fun d _ => ∃ g, d.Body g)
    (fun _ _ =>
      { giveUp := fun _ _ _ h => h
        replace := fun _ _ _ _ _ _ _ hrep ⟨_, h⟩ => h.exists_replaceText hrep
        leave := fun _ _ _ _ _ _ _ h => h })
    h.wellFormed ⟨f, h⟩

/-! ### A pass over a paragraph -/

/-- Turns over a node leave alone what is not at or below it. -/
theorem Turn.yield_of_beyond {options : Options} {n : NodeId} {x i : NodeId} {u : TextUnit}
    {ms : List Matcher} (h : ¬(i = x ∨ x ∈ u.above.map (·.id))) :
    yield options n (overNode x ms) i u = ⟨Forest.keep i u, []⟩ := by
  refine yield_of_idle fun t ht => scan_of_not_reaches fun hreach => h ?_
  rw [← scope_of_mem_overNode ht]
  exact hreach.2

namespace Engine

variable {e : Engine} {rules : List Rule} {d : Document} {f : Forest} {p i : NodeId} {line : String}

/-- The paragraph is the element `p`, which holds the text `i`. -/
theorem tree?_paragraph (h : d.Body (f ++ .element p "p" [] (.text i line .nil) .nil)) :
    d.tree? p = some (.element p "p" [] (.text i line .nil) .nil) ∧ d.attached p = true := by
  have hp : p ∈ (Forest.element p "p" [] (.text i line .nil) .nil).ids := List.mem_cons_self
  refine ⟨?_, (h.wellFormed.attached_iff h.tree?_root).mpr (.inr ?_)⟩
  · rw [h.tree?_tail hp, Forest.find?, if_pos rfl]
  · rw [Forest.ids_append]
    exact List.mem_append_right _ hp

/-- Turns over a paragraph leave the other texts alone. -/
theorem yield_beyond_paragraph {n : NodeId} {options : Options} {ms : List Matcher}
    (h : d.Body (f ++ .element p "p" [] (.text i line .nil) .nil)) {q : NodeId × TextUnit}
    (hq : q ∈ d.units) (hne : q.1 ≠ i) :
    yield options n (overNode p ms) q.1 q.2 = ⟨Forest.keep q.1 q.2, []⟩ := by
  refine Turn.yield_of_beyond ?_
  rw [← h.wellFormed.mem_textIds_iff hq, Document.textIds, (tree?_paragraph h).1]
  simpa [Forest.textIds] using hne

/-- The text of a paragraph, with nothing beside it. -/
def paragraphUnit (p : NodeId) (line : String) : TextUnit :=
  ⟨[⟨p, "p", []⟩, Block.body], "", line, ""⟩

theorem mem_units_of_body (h : d.Body f) {q : NodeId × TextUnit}
    (hq : q ∈ f.textsIn [Block.body] "" "") : q ∈ d.units := by
  rw [Document.units_eq]
  exact List.mem_flatMap.mpr ⟨_, h.mem_trees, List.mem_append_left _ hq⟩

theorem mem_units_paragraph (h : d.Body (f ++ .element p "p" [] (.text i line .nil) .nil)) :
    (i, paragraphUnit p line) ∈ d.units := by
  refine mem_units_of_body h ?_
  rw [Forest.textsIn_append]
  exact List.mem_append_right _ List.mem_cons_self

/-- Turns over a paragraph rewrite its text. -/
theorem rewrite_paragraph {n : NodeId} {options : Options} {ms : List Matcher}
    (h : d.Body (f ++ .element p "p" [] (.text i line .nil) .nil)) :
    (f ++ .element p "p" [] (.text i line .nil) .nil).rewrite
        (fun j u => (yield options n (overNode p ms) j u).leaves) [Block.body] "" "" =
      f ++ .element p "p" [] (yield options n (overNode p ms) i (paragraphUnit p line)).leaves
        .nil := by
  have hkeep : f.rewrite (fun j u => (yield options n (overNode p ms) j u).leaves)
      [Block.body] "" "" = f := by
    refine Forest.rewrite_eq_self fun q hq => ?_
    have hunit : q ∈ d.units := by
      refine mem_units_of_body h ?_
      rw [Forest.textsIn_append]
      exact List.mem_append_left _ hq
    have hne : q.1 ≠ i := by
      rintro rfl
      exact h.not_mem_of_tail (List.mem_cons_of_mem _ List.mem_cons_self)
        (Forest.mem_ids_of_mem_textsIn hq)
    rw [yield_beyond_paragraph h hunit hne]
  rw [Forest.rewrite_append, Forest.textAfter, hkeep, Forest.rewrite, Forest.rewrite,
    Forest.rewrite, Forest.rewrite, Forest.append_nil]
  rfl

/-- What comes of the text of a paragraph. -/
theorem shows_paragraph (hrules : ∀ r ∈ rules, r.IsFound) (n : NodeId) (options : Options)
    (p i : NodeId) (line : String) :
    (yield options n (overNode p (rules.map .ofLiteral)) i (paragraphUnit p line)).Shows
      (SparseText options.maxMatches rules line.toList) (.ofText rules line.toList) := by
  refine Turn.shows_yield_alone hrules ⟨?_, ?_, ?_⟩ rfl
  · simp [paragraphUnit, Block.body, Block.not_excludes_p, Block.not_excludes_body]
  · exact List.mem_cons_of_mem _ List.mem_cons_self
  · exact List.mem_cons_self

/-- **A pass over a paragraph** makes of it what it makes of its text. -/
theorem apply_paragraph (hrules : ∀ r ∈ rules, r.IsFound)
    (he : e.matchers.matchers = rules.map Matcher.ofLiteral)
    (h : d.Body (f ++ .element p "p" [] (.text i line .nil) .nil))
    (hsparse : SparseText e.options.maxMatches rules line.toList) :
    let pass := e.apply d p
    let r := Rendering.ofText rules line.toList
    (pass.1.shown p).toList = r.shown ∧ pass.2.masksCreated = r.masks := by
  intro pass r
  have wf := h.wellFormed
  obtain ⟨htree, hatt⟩ := tree?_paragraph h
  have hp : p < d.fresh := wf.mem_ids_iff.mp (Document.mem_ids_of_tree? htree)
  have hshows := shows_paragraph hrules d.fresh e.options p i line
  rw [← he] at hshows
  have hclean : Turn.Clean
      (Turn.scansOf e.options d.fresh (overNode p e.matchers.matchers) d.trees) := by
    intro scan hscan
    rw [Turn.scansOf, ← List.flatMap_assoc, ← Document.units_eq] at hscan
    obtain ⟨q, hq, hscan⟩ := List.mem_flatMap.mp hscan
    by_cases hne : q.1 = i
    · have hunit : q = (i, paragraphUnit p line) :=
        Prod.ext hne (wf.unit_unique (hne ▸ hq) (mem_units_paragraph h))
      rw [hunit] at hscan
      exact hshows.clean.mpr hsparse scan hscan
    · rw [yield_beyond_paragraph h hq hne] at hscan
      cases hscan
  obtain ⟨g, hg, hblur, hmasks⟩ := apply_root h hp (.inl hatt) hclean
  rw [← Block.body, rewrite_paragraph h] at hblur
  have hleaves := hshows.rendering hsparse
  refine ⟨?_, ?_⟩
  · -- the paragraph stands after the pass where it stood before
    have hfind := Forest.find?_blur (f := g) hp
    rw [hblur, Forest.find?_append, Forest.find?_eq_none_iff.mpr
      (h.not_mem_of_tail List.mem_cons_self), Option.none_or, Forest.find?, if_pos rfl] at hfind
    obtain ⟨q, hq, hqblur⟩ := Option.map_eq_some_iff.mp hfind.symm
    have hqleaves : q.rendering = r := by
      rw [← Forest.rendering_blur d.fresh, hqblur, Forest.rendering_element, hleaves,
        Forest.rendering_nil, Rendering.append_text_nil]
    rw [Document.shown, hg.tree?_of_mem (Forest.mem_ids_of_find? hq), hq, Option.getD_some]
    exact congrArg Rendering.shown hqleaves
  · have hall : g.rendering = f.rendering ++ r := by
      rw [← Forest.rendering_blur d.fresh, hblur, Forest.rendering_append,
        Forest.rendering_element, hleaves, Forest.rendering_nil, Rendering.append_text_nil]
    have hcount : g.maskIds.length = f.maskIds.length + r.masks := congrArg Rendering.masks hall
    rw [hcount, Forest.maskIds_append, List.length_append] at hmasks
    simp only [Forest.maskIds, List.append_nil, List.length_nil] at hmasks
    exact (Nat.add_left_cancel hmasks).symm

end Engine

/-! ### Batches -/

namespace Session

variable {engine : Engine} {added : List NodeId} {d : Document}

/-- Nothing is masked below excluded nodes. -/
theorem foldl_maskAdded_of_excluded {ids : List NodeId} (h : ∀ id ∈ ids, d.excluded id = true)
    (r : Report) : ids.foldl (maskAdded engine added) (r, d) = (r, d) := by
  induction ids with
  | nil => rfl
  | cons id ids ih =>
      obtain ⟨hid, hids⟩ := List.forall_mem_cons.mp h
      have hno : d.isTarget added id = false := by
        rw [Document.isTarget, hid, Bool.not_true, Bool.and_false, Bool.false_and]
      rw [List.foldl_cons, maskAdded, hno]
      exact ih hids

theorem handleBatch_of_excluded (s : Session) {batch : List Mutation}
    (h : ∀ id, .added id ∈ batch → d.excluded id = true) :
    s.handleBatch batch d = (.empty, d) := by
  rw [handleBatch]
  cases s.engine with
  | none => rfl
  | some e => exact foldl_maskAdded_of_excluded (fun id hid => h id (mem_addedNodes.mp hid)) _

/-- One pass is run over a paragraph that was added with its text. -/
theorem handleBatch_paragraph {s : Session} (he : s.engine = some engine) {f : Forest}
    {p i : NodeId} {line : String}
    (h : d.Body (f ++ .element p "p" [] (.text i line .nil) .nil)) :
    s.handleBatch [.added p, .added i] d =
      (Report.empty.merge (engine.apply d p).2, (engine.apply d p).1) := by
  have wf := h.wellFormed
  have hspot : (p, ⟨[Block.body], excludes "p" []⟩) ∈ d.spots ∧
      (i, ⟨[⟨p, "p", []⟩, Block.body], false⟩) ∈ d.spots := by
    refine ⟨h.mem_spots ?_, h.mem_spots ?_⟩ <;>
      rw [Forest.spotsFrom_append] <;> refine List.mem_append_right _ ?_
    · exact List.mem_cons_self
    · exact List.mem_cons_of_mem _ List.mem_cons_self
  have hids : [Document.root, p, i].Nodup := by
    refine h.nodup.sublist (List.Sublist.cons_cons _ ?_)
    rw [Forest.ids_append]
    exact List.sublist_append_right _ _
  obtain ⟨hroot, hpi⟩ := List.nodup_cons.mp hids
  have hne : i ≠ p := by simpa [eq_comm] using hpi
  have hadded : Mutation.addedNodes [.added p, .added i] = [p, i] := by
    simp [Mutation.addedNodes, Mutation.added?, List.eraseDups_cons, hne]
  have htarget : d.isTarget [p, i] p = true := by
    refine Document.isTarget_iff.mpr ⟨(Engine.tree?_paragraph h).2, ?_, ?_⟩
    · rw [wf.excluded_of_mem_spots hspot.1]
      simp [Block.body, Block.not_excludes_p, Block.not_excludes_body]
    · rw [wf.above_of_mem_spots hspot.1]
      simpa [Block.body] using hroot
  have hnot : d.isTarget [p, i] i = false := by
    rw [← Bool.not_eq_true, Document.isTarget_iff, wf.above_of_mem_spots hspot.2]
    simp
  have hmem : ∀ id ∈ [p, i], id ∈ d.ids := by
    intro id hid
    rw [← Document.map_fst_spots]
    rcases List.mem_pair.mp hid with rfl | rfl
    · exact List.mem_map_of_mem hspot.1
    · exact List.mem_map_of_mem hspot.2
  rw [handleBatch, he]
  dsimp only
  rw [hadded, foldl_maskAdded, passRoots_eq_filter wf hpi (List.Subset.refl _)
      fun id hid => hmem id (passRoots_subset _ _ _ _ hid),
    List.filter_cons_of_pos htarget, List.filter_cons_of_neg (by simpa using hnot)]
  rfl

end Session

/-! ### Streams -/

namespace LineStream

/-- What is open at the end of what the root holds: nothing, or an element for a fenced block. -/
inductive EndsIn (d : Document) : Option NodeId → Prop
  | plain {f : Forest} (h : d.Body f) : EndsIn d none
  | fenced {f g : Forest} {pre code : NodeId}
      (h : d.Body (f ++ .element pre "pre" [] (.element code "code" [] g .nil) .nil)) :
      EndsIn d (some code)

/-- All that was added is masked by the engine. -/
structure Growing (s : LineStream) (e : Engine) : Prop where
  engine_eq : s.session.engine = some e
  log_eq : s.document.log = []
  endsIn : EndsIn s.document s.fenced

variable {s : LineStream} {e : Engine}

/-- The nodes of a fenced block are excluded. -/
theorem excluded_of_mem_block {d : Document} {f g : Forest} {pre code : NodeId}
    (h : d.Body (f ++ .element pre "pre" [] (.element code "code" [] g .nil) .nil)) {id : NodeId}
    (hid : id ∈ (Forest.element pre "pre" [] (.element code "code" [] g .nil) .nil).ids) :
    d.excluded id = true := by
  have hpre : excludes "pre" [] = true := by decide
  rw [← Forest.map_fst_spotsFrom [Block.body]] at hid
  obtain ⟨⟨id, sp⟩, hsp, rfl⟩ := List.mem_map.mp hid
  have hspot : (id, sp) ∈ d.spots :=
    h.mem_spots (Forest.spotsFrom_append _ f _ ▸ List.mem_append_right _ hsp)
  rw [h.wellFormed.excluded_of_mem_spots hspot]
  rcases List.mem_cons.mp hsp with hsp | hsp
  · rw [(Prod.mk.inj hsp).2, hpre, Bool.true_or]
  · have hcode := (List.mem_append.mp hsp).resolve_right List.not_mem_nil
    have hbelow := (Forest.suffix_of_mem_spotsFrom hcode).subset List.mem_cons_self
    rw [Bool.or_eq_true, List.any_eq_true]
    exact .inr ⟨_, hbelow, hpre⟩

/-- The fenced block that is open takes every line, and a fence closes it. -/
theorem Growing.place_fenced (h : s.Growing e) {code : NodeId} (hcode : s.fenced = some code)
    (line : String) :
    ∃ d, s.place line = .ok (none, { s with
        document := d, fenced := if Text.isFence line.toList then none else some code }) ∧
      EndsIn d (if Text.isFence line.toList then none else some code) ∧
      ∀ id, .added id ∈ d.log → d.excluded id = true := by
  have hends := h.endsIn
  rw [hcode] at hends
  obtain ⟨-⟩ | ⟨hd⟩ := hends
  rename_i f g pre
  obtain ⟨hok, hbody⟩ := hd.addText_tail (t := "code")
    (List.mem_cons_of_mem _ List.mem_cons_self) line
  have hne : pre ≠ code := by
    have hids : [pre, code].Nodup := by
      refine (List.nodup_cons.mp hd.nodup).2.sublist ?_
      rw [Forest.ids_append]
      refine List.Sublist.trans ?_ (List.sublist_append_right _ _)
      exact ((List.nil_sublist _).cons_cons code).cons_cons pre
    simpa using hids
  simp only [Forest.appendChild, if_neg hne, if_true] at hbody
  refine ⟨s.document.grow code (.text s.document.fresh line .nil), ?_, ?_, ?_⟩
  · rw [place, hcode]
    dsimp only
    rw [hok]
    rfl
  · split_ifs
    · exact .plain hbody
    · exact .fenced hbody
  · intro id hid
    rw [Document.grow, h.log_eq, List.nil_append, List.mem_singleton, Mutation.added.injEq] at hid
    refine excluded_of_mem_block hbody ?_
    rw [hid]
    simp [Forest.ids]

/-- A fence opens a block. -/
theorem Growing.place_fence (h : s.Growing e) (hplain : s.fenced = none) {line : String}
    (hfence : Text.isFence line.toList = true) :
    ∃ d code, s.place line = .ok (none, { s with document := d, fenced := some code }) ∧
      EndsIn d (some code) ∧ ∀ id, .added id ∈ d.log → d.excluded id = true := by
  have hends := h.endsIn
  rw [hplain] at hends
  obtain ⟨hd⟩ | ⟨-⟩ := hends
  rename_i f
  obtain ⟨hpre, h₁⟩ := hd.addElement_root "pre" (by decide)
  obtain ⟨hcode, h₂⟩ := h₁.addElement_tail List.mem_cons_self "code" (by decide)
  simp only [Forest.appendChild, if_true, Forest.nil_append] at h₂
  obtain ⟨htext, h₃⟩ := h₂.addText_tail (t := "code")
    (List.mem_cons_of_mem _ List.mem_cons_self) line
  have hne : s.document.fresh ≠ (s.document.grow Document.root
      (.element s.document.fresh "pre" [] .nil .nil)).fresh := Nat.ne_of_lt (Nat.lt_succ_self _)
  simp only [Forest.appendChild, if_true, if_neg hne, Forest.nil_append] at h₃
  refine ⟨_, _, ?_, .fenced h₃, ?_⟩
  · simp only [place, hplain, hfence, if_true, bind, Except.bind, hpre, hcode, htext]
    rfl
  · intro id hid
    simp only [Document.grow, h.log_eq, List.nil_append, List.cons_append, List.mem_cons,
      List.not_mem_nil, or_false, Mutation.added.injEq] at hid
    refine excluded_of_mem_block h₃ ?_
    simpa [Forest.ids, Document.grow] using hid

/-- Another line becomes a paragraph. -/
theorem Growing.place_paragraph (h : s.Growing e) (hplain : s.fenced = none) {line : String}
    (hfence : Text.isFence line.toList = false) :
    ∃ d f p i, s.place line = .ok (some p, { s with document := d }) ∧
      d.Body (f ++ .element p "p" [] (.text i line .nil) .nil) ∧
      d.log = [.added p, .added i] := by
  have hends := h.endsIn
  rw [hplain] at hends
  obtain ⟨hd⟩ | ⟨-⟩ := hends
  rename_i f
  obtain ⟨hparagraph, h₁⟩ := hd.addElement_root "p" (by decide)
  obtain ⟨htext, h₂⟩ := h₁.addText_tail List.mem_cons_self line
  simp only [Forest.appendChild, if_true, Forest.nil_append] at h₂
  refine ⟨_, f, s.document.fresh, s.document.fresh + 1, ?_, h₂, ?_⟩
  · simp only [place, hplain, hfence, Bool.false_eq_true, if_false, bind, Except.bind, hparagraph,
      htext]
    rfl
  · simp only [Document.grow, h.log_eq, List.nil_append, List.singleton_append]

theorem settle_eq (s : LineStream) :
    let (report, document) := s.session.handleBatch s.document.log s.document.takeLog.2
    s.settle = { s with document, report := s.report.merge report } := rfl

/-- What was put below excluded nodes only stays as it is. -/
theorem settle_of_excluded
    (h : ∀ id, .added id ∈ s.document.log → s.document.excluded id = true) :
    s.settle = { s with document := s.document.takeLog.2 } := by
  have hbatch : s.session.handleBatch s.document.log s.document.takeLog.2 =
      (.empty, s.document.takeLog.2) := s.session.handleBatch_of_excluded h
  have hsettle := s.settle_eq
  rw [hbatch] at hsettle
  exact hsettle

theorem EndsIn.takeLog {d : Document} {code : Option NodeId} (h : EndsIn d code) :
    EndsIn d.takeLog.2 code := by
  cases h with
  | plain h => exact .plain h.takeLog
  | fenced h => exact .fenced h.takeLog

section Push

variable {line : String}

theorem push_of_place {paragraph : Option NodeId} {placed : LineStream}
    (h : s.place line = .ok (paragraph, placed)) :
    s.push line =
      .ok ((paragraph.map placed.settle.document.shown).getD line, placed.settle) := by
  rw [push, h]
  rfl

/-- A line of a fenced block is given back as it is. -/
theorem Growing.push_fenced (h : s.Growing e) {d : Document} {code : Option NodeId}
    (hplace : s.place line = .ok (none, { s with document := d, fenced := code }))
    (hends : EndsIn d code) (hlog : ∀ id, .added id ∈ d.log → d.excluded id = true) :
    ∃ s', s.push line = .ok (line, s') ∧ s'.Growing e ∧ s'.fenced = code ∧
      s'.report.masksCreated = s.report.masksCreated := by
  have hpush := push_of_place hplace
  rw [settle_of_excluded hlog, Option.map_none, Option.getD_none] at hpush
  exact ⟨_, hpush, ⟨h.engine_eq, rfl, hends.takeLog⟩, rfl, rfl⟩

/-- A line outside of fenced blocks becomes a paragraph; one pass is run over it, and what it shows
then is given back. -/
theorem Growing.push_alone (h : s.Growing e) (hplain : s.fenced = none)
    (hfence : Text.isFence line.toList = false) :
    ∃ d f p i s', d.Body (f ++ .element p "p" [] (.text i line .nil) .nil) ∧
      s.push line = .ok ((e.apply d p).1.shown p, s') ∧ s'.Growing e ∧ s'.fenced = none ∧
      s'.report.masksCreated = s.report.masksCreated + (e.apply d p).2.masksCreated := by
  obtain ⟨d, f, p, i, hplace, hbody, hlog⟩ := h.place_paragraph hplain hfence
  have hbody := hbody.takeLog
  obtain ⟨g, hafter⟩ := e.exists_body_apply hbody p
  have hsettle := settle_eq { s with document := d }
  dsimp only at hsettle
  rw [hlog, Session.handleBatch_paragraph h.engine_eq hbody] at hsettle
  have hpush := push_of_place hplace
  rw [hsettle, Option.map_some, Option.getD_some] at hpush
  refine ⟨_, f, p, i, _, hbody, hpush, ⟨h.engine_eq, e.log_apply _ _, ?_⟩, hplain, ?_⟩
  · rw [hplain]
    exact .plain hafter
  · show s.report.masksCreated + (0 + (e.apply d.takeLog.2 p).2.masksCreated) = _
    rw [Nat.zero_add]

end Push

/-- The line, with whether it lies outside of fenced blocks. -/
def openLine (s : LineStream) (line : List Char) : Bool × List Char :=
  (!s.fenced.isSome && !Text.isFence line, line)

/-- The stream `s` gives the line back as `shown`, which is what comes of it, and becomes `s'`. -/
structure Pushed (e : Engine) (rules : List Rule) (s : LineStream) (line : List Char)
    (shown : String) (s' : LineStream) : Prop where
  push_eq : s.push (String.ofList line) = .ok (shown, s')
  growing : s'.Growing e
  fenced_eq : s'.fenced.isSome = (s.fenced.isSome ^^ Text.isFence line)
  shown_eq : shown.toList ++ ['\n'] = (Rendering.ofLine rules (s.openLine line)).shown
  masksCreated_eq :
    s'.report.masksCreated =
      s.report.masksCreated + (Rendering.ofLine rules (s.openLine line)).masks

variable {rules : List Rule} {line : List Char}

/-- A line of a fenced block comes to itself. -/
theorem Growing.pushed_fenced (h : s.Growing e) {d : Document} {code : Option NodeId}
    (hplace : s.place (String.ofList line) = .ok (none, { s with document := d, fenced := code }))
    (hends : EndsIn d code) (hlog : ∀ id, .added id ∈ d.log → d.excluded id = true)
    (hopen : code.isSome = (s.fenced.isSome ^^ Text.isFence line))
    (hline : s.openLine line = (false, line)) :
    ∃ shown s', Pushed e rules s line shown s' := by
  obtain ⟨s', hpush, hgrowing, hfenced, hmasks⟩ := h.push_fenced hplace hends hlog
  refine ⟨_, s', hpush, hgrowing, hfenced ▸ hopen, ?_, ?_⟩
  · rw [hline, String.toList_ofList]
    rfl
  · rw [hline, hmasks]
    rfl

/-- A line outside of fenced blocks is given back masked. -/
theorem Growing.pushed_paragraph (h : s.Growing e) (hrules : ∀ r ∈ rules, r.IsFound)
    (he : e.matchers.matchers = rules.map Matcher.ofLiteral) (hplain : s.fenced = none)
    (hfence : Text.isFence line = false) (hsparse : SparseText e.options.maxMatches rules line) :
    ∃ shown s', Pushed e rules s line shown s' := by
  have htext : (String.ofList line).toList = line := String.toList_ofList
  have hline : s.openLine line = (true, line) := by
    rw [openLine, hplain, hfence]
    rfl
  have hfence' : Text.isFence (String.ofList line).toList = false := by rwa [htext]
  obtain ⟨d, f, p, i, s', hbody, hpush, hgrowing, hfenced, hcreated⟩ :=
    h.push_alone hplain hfence'
  obtain ⟨hshown, hmasks⟩ := Engine.apply_paragraph hrules he hbody (by rwa [htext])
  rw [htext] at hshown hmasks
  refine ⟨_, s', hpush, hgrowing, ?_, ?_, ?_⟩
  · rw [hfenced, hplain, hfence]
    rfl
  · rw [hline, hshown]
    rfl
  · rw [hline, hcreated, hmasks]
    rfl

/-- **A line that is pushed** comes to what it comes to by itself. -/
theorem Growing.pushed (h : s.Growing e) (hrules : ∀ r ∈ rules, r.IsFound)
    (he : e.matchers.matchers = rules.map Matcher.ofLiteral) (line : List Char)
    (hsparse : (s.openLine line).1 = true → SparseText e.options.maxMatches rules line) :
    ∃ shown s', Pushed e rules s line shown s' := by
  obtain hplain | ⟨code, hcode⟩ := s.fenced.eq_none_or_eq_some
  · cases hfence : Text.isFence line with
    | true =>
        have hfence' : Text.isFence (String.ofList line).toList = true := by
          rwa [String.toList_ofList]
        obtain ⟨d, code, hplace, hends, hlog⟩ := h.place_fence hplain hfence'
        refine h.pushed_fenced hplace hends hlog ?_ ?_
        · rw [hplain, hfence]
          rfl
        · rw [openLine, hplain, hfence]
          rfl
    | false =>
        refine h.pushed_paragraph hrules he hplain hfence (hsparse ?_)
        rw [openLine, hplain, hfence]
        rfl
  · obtain ⟨d, hplace, hends, hlog⟩ := h.place_fenced hcode (String.ofList line)
    rw [String.toList_ofList] at hplace hends
    refine h.pushed_fenced hplace hends hlog ?_ ?_
    · rw [hcode]
      cases Text.isFence line <;> rfl
    · rw [openLine, hcode]
      rfl

/-- Takes lines one after the other and gives them back masked. -/
def pushAll (s : LineStream) : List String → Except TreeError (List String × LineStream)
  | [] => .ok ([], s)
  | line :: rest => do
    let (shown, s) ← s.push line
    let (more, s) ← s.pushAll rest
    return (shown :: more, s)

theorem pushAll_cons {line shown : String} {rest more : List String} {s' s'' : LineStream}
    (h : s.push line = .ok (shown, s')) (hrest : s'.pushAll rest = .ok (more, s'')) :
    s.pushAll (line :: rest) = .ok (shown :: more, s'') := by
  rw [pushAll, h]
  simp only [bind, Except.bind, hrest]
  rfl

theorem exists_of_pushAll_cons {line : String} {rest shown : List String} {s' : LineStream}
    (h : s.pushAll (line :: rest) = .ok (shown, s')) :
    ∃ first s₁ more, s.push line = .ok (first, s₁) ∧ s₁.pushAll rest = .ok (more, s') ∧
      shown = first :: more := by
  rw [pushAll] at h
  cases hpush : s.push line with
  | error e =>
      rw [hpush] at h
      cases h
  | ok first =>
      rw [hpush] at h
      simp only [bind, Except.bind] at h
      cases hmore : first.2.pushAll rest with
      | error e =>
          rw [hmore] at h
          cases h
      | ok more =>
          rw [hmore] at h
          cases h
          exact ⟨first.1, first.2, more.1, rfl, hmore, rfl⟩

/-- Whether the lines are fenced: a fenced block is open before the line or after it. -/
def fencing (s : LineStream) : List String → List Bool
  | [] => []
  | line :: rest =>
    match s.push line with
    | .ok (_, s') => (s.fenced.isSome || s'.fenced.isSome) :: s'.fencing rest
    | .error _ => []

/-- **Lines that are pushed** one after the other come to what they come to by themselves. -/
theorem Growing.pushedAll (h : s.Growing e) (hrules : ∀ r ∈ rules, r.IsFound)
    (he : e.matchers.matchers = rules.map Matcher.ofLiteral) (rows : List (List Char))
    (hsparse : ∀ p ∈ openLines s.fenced.isSome rows,
      p.1 = true → SparseText e.options.maxMatches rules p.2) :
    ∃ shown s', s.pushAll (rows.map String.ofList) = .ok (shown, s') ∧
      let r := Rendering.concat ((openLines s.fenced.isSome rows).map (.ofLine rules))
      shown.flatMap (fun line => line.toList ++ ['\n']) = r.shown ∧
      s'.report.masksCreated = s.report.masksCreated + r.masks ∧
      s.fencing (rows.map String.ofList) = (openLines s.fenced.isSome rows).map fun p => !p.1 := by
  induction rows generalizing s with
  | nil => exact ⟨[], s, rfl, rfl, rfl, rfl⟩
  | cons row rows ih =>
      rw [openLines_cons] at hsparse ⊢
      obtain ⟨hrow, hrows⟩ := List.forall_mem_cons.mp hsparse
      obtain ⟨shown, s₁, hpush⟩ := h.pushed hrules he row hrow
      rw [← hpush.fenced_eq] at hrows ⊢
      obtain ⟨more, s', hmore, hshown, hmasks, hfencing⟩ := ih hpush.growing hrows
      refine ⟨shown :: more, s', pushAll_cons hpush.push_eq hmore, ?_, ?_, ?_⟩
      · rw [List.flatMap_cons, hshown, hpush.shown_eq]
        rfl
      · rw [hmasks, hpush.masksCreated_eq, Nat.add_assoc]
        rfl
      · rw [List.map_cons, fencing, hpush.push_eq]
        dsimp only
        rw [hfencing, List.map_cons, hpush.fenced_eq]
        cases s.fenced.isSome <;> cases Text.isFence row <;> rfl

/-- A stream begins with nothing masked. -/
theorem growing_start (rules : RuleList) (options : Options) :
    (start rules options).Growing (Engine.ofRules rules options) ∧
      (start rules options).fenced = none ∧ (start rules options).report.masksCreated = 0 := by
  have hlt : Document.root < Document.empty.fresh := Nat.zero_lt_one
  obtain ⟨g, hg, hblur, hmasks⟩ := (Engine.ofRules rules options).apply_root Document.body_empty
    hlt (.inl rfl) (List.forall_mem_nil _)
  have hnil : g = .nil := by
    cases g with
    | nil => rfl
    | text => cases hblur
    | mask => cases hblur
    | element => cases hblur
  rw [hnil] at hmasks
  exact ⟨⟨rfl, Engine.log_apply _ _ _, .plain hg⟩, rfl, (Nat.zero_add _).symm.trans hmasks.symm⟩

end LineStream

end TextMasking
