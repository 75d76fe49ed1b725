import TextMasking.Proofs.Document.Growth
import TextMasking.Proofs.Masking.Pieces
import TextMasking.Proofs.Masking.Rendering

/-! # Passes of words

A pass whose rules look for words makes of each text that it reads what the words make of it
(`Turn.shows_yield`): the first rule leaves the parts between its occurrences to the others, and
each of these reads in the same whole as before.  A rule is given up if and only if it has too many
occurrences in some part.

What comes of a forest is put together from what comes of its texts (`Outcome.ofForest`). -/

namespace TextMasking

open Unicode

/-- A word that is found wherever it occurs. -/
structure Rule.IsFound (rule : Rule) : Prop where
  isWord : rule.IsWord
  startsInAscii : rule.StartsInAscii
  ne_nil : rule.pattern.toList ≠ []

namespace Forest

/-- What a forest is shown as, and how many masks are in it. -/
def rendering (f : Forest) : Rendering := ⟨f.shown.toList, f.maskIds.length⟩

@[simp] theorem rendering_nil : nil.rendering = .text [] := rfl

@[simp] theorem rendering_append (f g : Forest) :
    (f ++ g).rendering = f.rendering ++ g.rendering := by
  refine congrArg₂ Rendering.mk ?_ ?_
  · rw [shown_append, String.toList_append]
    rfl
  · rw [maskIds_append, List.length_append]
    rfl

@[simp] theorem rendering_text (i : NodeId) (s : String) (rest : Forest) :
    (text i s rest).rendering = .text s.toList ++ rest.rendering := by
  refine congrArg₂ Rendering.mk ?_ ?_
  · exact String.toList_append
  · exact (Nat.zero_add _).symm

@[simp] theorem rendering_mask (i : NodeId) (m : Mask) (rest : Forest) :
    (mask i m rest).rendering = .mask m.replacement ++ rest.rendering := by
  refine congrArg₂ Rendering.mk ?_ ?_
  · exact String.toList_append
  · exact Nat.add_comm _ _

theorem rendering_leaf_mask (i : NodeId) (m : Mask) :
    (mask i m nil).rendering = .mask m.replacement := by
  rw [rendering_mask, rendering_nil, Rendering.append_text_nil]

theorem rendering_leaf_text (i : NodeId) (s : String) :
    (text i s nil).rendering = .text s.toList := by
  rw [rendering_text, rendering_nil, Rendering.append_text_nil]

@[simp] theorem rendering_element (i : NodeId) (t : String) (a : Attributes) (c rest : Forest) :
    (element i t a c rest).rendering = c.rendering ++ rest.rendering := by
  refine congrArg₂ Rendering.mk ?_ ?_
  · exact String.toList_append
  · exact List.length_append

@[simp] theorem rendering_blur (n : NodeId) (f : Forest) : (f.blur n).rendering = f.rendering := by
  induction f with
  | nil => rfl
  | text i s rest ih => rw [blur, rendering_text, rendering_text, ih]
  | mask i m rest ih => rw [blur, rendering_mask, rendering_mask, ih]
  | element i t a c rest ihc ih => rw [blur, rendering_element, rendering_element, ihc, ih]

end Forest

/-! ### What comes of a forest -/

namespace Outcome

instance : Append Outcome := ⟨fun a b => ⟨a.leaves ++ b.leaves, a.scans ++ b.scans⟩⟩

/-- What comes of a forest when each text gives way to what comes of it. -/
def ofForest (y : NodeId → TextUnit → Outcome) (above : List Forest.Ancestor)
    (before after : String) (f : Forest) : Outcome where
  leaves := f.rewrite (fun i u => (y i u).leaves) above before after
  scans := (f.textsIn above before after).flatMap fun p => (y p.1 p.2).scans

/-- No rule is given up if and only if `P` holds, and then the leaves are shown as `r`. -/
structure Shows (o : Outcome) (P : Prop) (r : Rendering) : Prop where
  clean : Turn.Clean o.scans ↔ P
  rendering : P → o.leaves.rendering = r

variable {y : NodeId → TextUnit → Outcome} {above : List Forest.Ancestor} {before after : String}
  {o o' : Outcome} {P Q : Prop} {r r' : Rendering}

theorem ofForest_append (f g : Forest) : ofForest y above before after (f ++ g) =
    ofForest y above before (g.textAfter after) f ++
      ofForest y above (f.textBefore before) after g := by
  refine congrArg₂ mk (Forest.rewrite_append f g) ?_
  rw [Forest.textsIn_append, List.flatMap_append]
  rfl

theorem ofForest_text (i : NodeId) (s : String) (rest : Forest) :
    ofForest y above before after (.text i s rest) =
      y i ⟨above, before, s, rest.textAfter after⟩ ++
        ofForest y above (before ++ s) after rest := rfl

theorem ofForest_mask (i : NodeId) (m : Mask) (rest : Forest) :
    ofForest y above before after (.mask i m rest) =
      ⟨.mask i m .nil, []⟩ ++ ofForest y above (before ++ m.hidden) after rest := rfl

theorem ofForest_element (i : NodeId) (t : String) (a : Attributes) (c rest : Forest) :
    ofForest y above before after (.element i t a c rest) =
      ⟨.element i t a (ofForest y (⟨i, t, a⟩ :: above) "" "" c).leaves .nil,
          (ofForest y (⟨i, t, a⟩ :: above) "" "" c).scans⟩ ++
        ofForest y above "" after rest := by
  refine congrArg₂ mk rfl ?_
  rw [Forest.textsIn, List.flatMap_append]
  rfl

namespace Shows

theorem of_iff (h : o.Shows P r) (hpq : P ↔ Q) : o.Shows Q r :=
  ⟨h.clean.trans hpq, fun hq => h.rendering (hpq.mpr hq)⟩

/-- Leaves on which nothing was found. -/
theorem of_leaves (f : Forest) (hp : P) (hr : f.rendering = r) : Shows ⟨f, []⟩ P r :=
  ⟨iff_of_true (List.forall_mem_nil _) hp, fun _ => hr⟩

/-- Some rule is given up. -/
theorem of_not (hc : ¬Turn.Clean o.scans) (hp : ¬P) : o.Shows P r :=
  ⟨iff_of_false hc hp, fun h => absurd h hp⟩

theorem element (h : o.Shows P r) (i : NodeId) (t : String) (a : Attributes) :
    Shows ⟨.element i t a o.leaves .nil, o.scans⟩ P r where
  clean := h.clean
  rendering hp := by
    rw [Forest.rendering_element, Forest.rendering_nil, Rendering.append_text_nil, h.rendering hp]

theorem append (h : o.Shows P r) (h' : o'.Shows Q r') : (o ++ o').Shows (P ∧ Q) (r ++ r') where
  clean := by
    rw [← h.clean, ← h'.clean]
    exact List.forall_mem_append
  rendering hpq :=
    (Forest.rendering_append _ _).trans (by rw [h.rendering hpq.1, h'.rendering hpq.2])

end Shows

end Outcome

theorem Fragment.leaves_append (n : NodeId) (a b : List Fragment) :
    leaves n (a ++ b) = leaves n a ++ leaves n b := by
  induction a with
  | nil => rfl
  | cons f rest ih =>
      cases f with
      | text s => exact congrArg (Forest.text n s) ih
      | mask m => exact congrArg (Forest.mask n m) ih

namespace ScanText

open Outcome (ofForest)

variable {t : ScanText} {y : NodeId → TextUnit → Outcome} {above : List Forest.Ancestor}
  {n : NodeId} {a b last : Nat}

/-- What comes of a part is what comes of the text there, if there is any. -/
theorem shows_piece {P : Prop} {r : Rendering} (hab : a ≤ b)
    (h : (y n ⟨above, t.part a b⟩).Shows P r) (hnil : a = b → P ∧ r = .text []) :
    (ofForest y above (String.ofList (t.whole.take a)) (String.ofList (t.whole.drop b))
      (Fragment.leaves n (t.piece a b))).Shows P r := by
  unfold piece
  split_ifs with hlt
  · have hshow := h.append (Outcome.Shows.of_leaves .nil trivial Forest.rendering_nil)
    rw [Rendering.append_text_nil] at hshow
    exact hshow.of_iff (and_iff_left trivial)
  · obtain ⟨hp, rfl⟩ := hnil (by omega)
    exact .of_leaves .nil hp rfl

/-- What comes of the fragments of a text is what comes of the parts, with the masks between. -/
theorem shows_fragments (y : NodeId → TextUnit → Outcome) (n : NodeId) {P : Nat → Nat → Prop}
    {g : Nat → Nat → Rendering}
    (h : ∀ a b, a ≤ b → b ≤ t.hi → (y n ⟨above, t.part a b⟩).Shows (P a b) (g a b))
    (hnil : ∀ a, P a a ∧ g a a = .text []) (replacement : String) {spans : List Span}
    (hord : Span.Ordered last t.hi spans) :
    (ofForest y above (String.ofList (t.whole.take last)) (String.ofList (t.whole.drop t.hi))
      (Fragment.leaves n (t.fragments replacement last spans))).Shows
        (AllBetween P last t.hi spans) (Rendering.between g replacement last t.hi spans) := by
  induction spans generalizing last with
  | nil => exact shows_piece hord (h _ _ hord (Nat.le_refl _)) fun e => e ▸ hnil last
  | cons s rest ih =>
      obtain ⟨hstart, hlt, hrest⟩ := hord
      have hle := hrest.le
      have hafter : (Fragment.leaves n (.mask ⟨String.ofList (t.slice s), replacement⟩ ::
            t.fragments replacement s.stop rest)).textAfter (String.ofList (t.whole.drop t.hi)) =
          String.ofList (t.whole.drop s.start) := by
        rw [(Fragment.reads_leaves n _).1, List.map_cons, String.join_cons,
          t.unmasked_fragments replacement hrest, Fragment.unmasked, ← String.ofList_append,
          ← String.ofList_append, t.slice_append_slice (Nat.le_of_lt hlt) hle,
          t.slice_append_drop (by omega)]
      have hbefore : (Fragment.leaves n (t.piece last s.start)).textBefore
            (String.ofList (t.whole.take last)) ++ String.ofList (t.slice s) =
          String.ofList (t.whole.take s.stop) := by
        rw [(Fragment.reads_leaves n _).2, t.unmasked_piece hstart, ← String.ofList_append,
          ← String.ofList_append, t.take_append_slice hstart,
          t.take_append_slice (Nat.le_of_lt hlt)]
      have hpiece := shows_piece hstart (h _ _ hstart (by omega)) fun e => e ▸ hnil last
      have hmask := (Outcome.Shows.of_leaves (.mask n ⟨String.ofList (t.slice s), replacement⟩ .nil)
        trivial (Forest.rendering_leaf_mask _ _)).append (ih hrest)
      rw [fragments, Fragment.leaves_append, Outcome.ofForest_append, hafter, Fragment.leaves,
        Outcome.ofForest_mask, hbefore]
      exact (hpiece.append hmask).of_iff (and_congr_right' (and_iff_right trivial))

end ScanText

/-- A passage is a part of the whole that is scanned. -/
theorem Passage.eq_part {p : Passage} {t : ScanText} (h : p.scanText = t) :
    p = t.part t.lo t.hi ∧ t.lo ≤ t.hi ∧ t.hi ≤ t.whole.length := by
  subst h
  refine ⟨?_, Nat.le_add_right _ _, ?_⟩
  · simp [scanText, ScanText.between, ScanText.part, ScanText.slice, List.append_assoc]
  · simp [scanText, ScanText.between]

theorem Passage.mem_text {p : Passage} {t : ScanText} (h : p.scanText = t) {j : Nat} {c : Char}
    (hlo : t.lo ≤ j) (hhi : j < t.hi) (hc : t.whole[j]? = some c) : c ∈ p.text.toList := by
  subst h
  simp only [scanText, ScanText.between] at hlo hhi hc
  rw [List.append_assoc, List.getElem?_append_right hlo,
    List.getElem?_append_left (by omega)] at hc
  exact List.mem_of_getElem? hc

/-! ### What comes of a text -/

namespace Turn

variable {options : Options} {n : NodeId} {x i : NodeId} {u : TextUnit} {rules : List Rule}
  {rule : Rule} {t : ScanText}

/-- The text can be read by turns over `x`. -/
structure Reads (x : NodeId) (u : TextUnit) : Prop where
  included : (u.above.any fun a => excludes a.tag a.attributes) = false
  attached : Document.root ∈ u.above.map (·.id)
  below : x ∈ u.above.map (·.id)

/-- What the turn of a word finds are its occurrences. -/
theorem scan_ofLiteral (hrule : rule.IsFound) (hu : Reads x u) (ht : u.passage.scanText = t)
    (options : Options) (i : NodeId) :
    (Turn.mk (.ofLiteral rule) x).scan options i u =
      (Matcher.capped options.maxMatches 0 (rule.occurrences t.whole t.lo t.hi)).map
        (·.map ((Matcher.ofLiteral rule).report t)) := by
  subst ht
  have hreach : (Turn.mk (.ofLiteral rule) x).Reaches i u := ⟨hu.attached, .inr hu.below⟩
  rw [scan, if_pos hreach, TextUnit.passage?, hu.included, Bool.false_or]
  split_ifs with hblank
  · have hall : u.passage.text.toList.all isBlank = true := (Bool.and_eq_true_iff.mp hblank).2
    have hnone : rule.occurrences u.passage.scanText.whole u.passage.scanText.lo
        u.passage.scanText.hi = [] := by
      exact hrule.isWord.occurrences_blank fun j c hlo hhi hc =>
        List.all_eq_true.mp hall c (Passage.mem_text rfl hlo hhi hc)
    rw [hnone, Matcher.capped_nil (Nat.zero_le _)]
    rfl
  · rw [← Matcher.spans_ofLiteral hrule.isWord hrule.startsInAscii hrule.ne_nil]
    rfl

theorem yield_cons (t : Turn) (ts : List Turn) (i : NodeId) (u : TextUnit) :
    yield options n (t :: ts) i u = ⟨.nil, t.scans options i u⟩ ++
      Outcome.ofForest (yield options n ts) u.above u.passage.before u.passage.after
        (t.cut options n i u) := rfl

/-- **What comes of a text** that passes do not leave alone is what words make of it. -/
theorem shows_yield (hrules : ∀ r ∈ rules, r.IsFound) (hu : Reads x u)
    (ht : u.passage.scanText = t) :
    (yield options n (overNode x (rules.map Matcher.ofLiteral)) i u).Shows
      (Sparse options.maxMatches t.whole rules t.lo t.hi)
      (Rendering.ofWords t.whole rules t.lo t.hi) := by
  induction rules generalizing i u t with
  | nil =>
      obtain ⟨hpart, -⟩ := Passage.eq_part ht
      refine .of_leaves (Forest.keep i u) trivial ?_
      rw [Forest.keep, Forest.rendering_leaf_text, hpart, ScanText.part, String.toList_ofList]
      rfl
  | cons rule rules ih =>
      obtain ⟨hrule, hrules⟩ := List.forall_mem_cons.mp hrules
      have hwords : ∀ r ∈ rules, r.IsWord := fun r hr => (hrules r hr).isWord
      have hscan := scan_ofLiteral hrule hu ht options i
      rw [List.map_cons, overNode_cons, Sparse, Rendering.ofWords]
      by_cases hcount : (rule.occurrences t.whole t.lo t.hi).length ≤ options.maxMatches
      · rw [Matcher.capped, if_pos (by omega)] at hscan
        cases hocc : rule.occurrences t.whole t.lo t.hi with
        | nil =>
            rw [hocc] at hscan
            rw [yield_cons_of_idle hscan]
            exact (ih hrules hu ht).of_iff (and_iff_right (Nat.zero_le _)).symm
        | cons s rest =>
            obtain ⟨hpart, hlohi, hhi⟩ := Passage.eq_part ht
            rw [hocc] at hscan hcount
            have hord : Span.Ordered t.lo t.hi (s :: rest) :=
              hocc ▸ Rule.ordered_occurrences hlohi
            have hcut : (Turn.mk (.ofLiteral rule) x).cut options n i u =
                Fragment.leaves n (t.fragments rule.replacement t.lo (s :: rest)) := by
              rw [cut, hscan]
              subst ht
              exact congrArg _ (Matcher.ofMatches_report hord)
            have hrest := ScanText.shows_fragments
              (yield options n (overNode x (rules.map Matcher.ofLiteral))) n
              (fun a b hab hb => ih hrules ⟨hu.included, hu.attached, hu.below⟩
                (t.scanText_part hab (Nat.le_trans hb hhi)))
              (fun a => ofWords_self hwords t.whole a options.maxMatches) rule.replacement hord
            have hfound : Outcome.Shows ⟨.nil, (Turn.mk (.ofLiteral rule) x).scans options i u⟩
                True (.text []) := by
              refine ⟨iff_of_true (clean_scans_iff.mpr ⟨_, hscan⟩) trivial, fun _ => rfl⟩
            rw [yield_cons, hcut, hpart]
            have hall := hfound.append hrest
            rw [Rendering.text_nil_append] at hall
            exact hall.of_iff ((and_iff_right trivial).trans (and_iff_right hcount).symm)
      · refine .of_not (fun hclean => ?_) fun hsparse => hcount hsparse.1
        obtain ⟨⟨found, hfound⟩, -⟩ := clean_yield_cons hclean
        rw [hscan, Matcher.capped, if_neg (by omega)] at hfound
        cases hfound

/-- A text with nothing beside it. -/
theorem shows_yield_alone (hrules : ∀ r ∈ rules, r.IsFound) (hu : Reads x u) {s : String}
    (hs : u.passage = ⟨"", s, ""⟩) :
    (yield options n (overNode x (rules.map Matcher.ofLiteral)) i u).Shows
      (SparseText options.maxMatches rules s.toList) (.ofText rules s.toList) := by
  refine shows_yield (t := ⟨s.toList, 0, s.toList.length⟩) hrules hu ?_
  rw [hs]
  simp [Passage.scanText, ScanText.between]

/-- A text of white space. -/
theorem shows_yield_blank (hrules : ∀ r ∈ rules, r.IsFound) (hu : Reads x u)
    (hs : u.passage.text.toList.all isBlank = true) :
    (yield options n (overNode x (rules.map Matcher.ofLiteral)) i u).Shows True
      (.text u.passage.text.toList) := by
  obtain ⟨hsame, hsparse⟩ := ofWords_of_blank (fun r hr => (hrules r hr).isWord)
    (fun j c hlo hhi hc => List.all_eq_true.mp hs c
      (Passage.mem_text (p := u.passage) rfl hlo hhi hc)) options.maxMatches
  have hpart : u.passage.text.toList = u.passage.scanText.slice ⟨u.passage.scanText.lo,
      u.passage.scanText.hi⟩ := by
    conv_lhs => rw [(Passage.eq_part (p := u.passage) rfl).1, ScanText.part, String.toList_ofList]
  rw [hpart]
  refine Outcome.Shows.of_iff ?_ (iff_of_true hsparse trivial)
  exact hsame ▸ shows_yield hrules hu rfl

/-- A text that passes leave alone. -/
theorem yield_of_excluded {ts : List Turn}
    (h : (u.above.any fun a => excludes a.tag a.attributes) = true) :
    yield options n ts i u = ⟨Forest.keep i u, []⟩ := by
  refine yield_of_idle fun t _ => ?_
  have hnone : u.passage? options = none := by
    rw [TextUnit.passage?, h, Bool.true_or, if_pos rfl]
  rw [scan, hnone]
  split_ifs <;> rfl

end Turn

/-! ### Passes -/

open Turn (overNode yield)

/-- What the root holds is tracked, apart from the numbers of new leaves. -/
theorem Tracks.exists_body {n : NodeId} {trees : List Forest} {d : Document} {g : Forest}
    (h : Tracks n trees d) (hg : .element Document.root "body" [] g .nil ∈ trees) :
    ∃ f, d.Body f ∧ f.blur n = g := by
  obtain ⟨loose, -, htrees⟩ := h.trees_eq
  obtain ⟨tree, htree, hblur⟩ := List.mem_map.mp (htrees ▸ List.mem_append_left loose hg)
  cases tree with
  | nil => cases hblur
  | text i s rest => cases hblur
  | mask i m rest => cases hblur
  | element i t' a' f rest =>
      obtain ⟨hi, ht, ha, hf, hrest⟩ := Forest.element.inj hblur
      cases rest with
      | nil =>
          subst hi ht ha
          exact ⟨f, ⟨h.wellFormed, htree⟩, hf⟩
      | text => cases hrest
      | mask => cases hrest
      | element => cases hrest

namespace Engine

variable {e : Engine} {d : Document} {x : NodeId}

/-- The matchers of words are those of their literal patterns. -/
theorem exists_ofLiteral (h : ∀ r ∈ e.rules, r.IsWord ∧ r.StartsInAscii) :
    ∃ rules : List Rule, (∀ r ∈ rules, r.IsFound) ∧
      e.matchers.matchers = rules.map Matcher.ofLiteral := by
  have hcompiled : ∀ m ∈ e.matchers.matchers, m.rule ∈ e.rules ∧
      Matcher.compile m.rule = .ok m := by
    rw [e.matchers_eq]
    exact fun m hm => MatcherList.exists_rule_of_mem_compile hm
  refine ⟨e.matchers.matchers.map (·.rule), fun r hr => ?_, ?_⟩
  · obtain ⟨m, hm, rfl⟩ := List.mem_map.mp hr
    obtain ⟨hmem, hcompile⟩ := hcompiled m hm
    exact ⟨(h _ hmem).1, (h _ hmem).2, Matcher.pattern_ne_nil_of_compile hcompile⟩
  · rw [List.map_map]
    refine (List.map_id _).symm.trans (List.map_congr_left fun m hm => ?_)
    obtain ⟨hmem, hcompile⟩ := hcompiled m hm
    exact Matcher.ofLiteral_of_compile hcompile (h _ hmem).1.literal

/-- **A pass over a node below the root** makes of what the root holds what its turns make of
it. -/
theorem apply_root {f : Forest} (h : d.Body f) (hx : x < d.fresh) (hs : d.Steady x)
    (hclean : Turn.Clean
      (Turn.scansOf e.options d.fresh (overNode x e.matchers.matchers) d.trees)) :
    ∃ g, (e.apply d x).1.Body g ∧
      g.blur d.fresh = f.rewrite
        (fun i u => (yield e.options d.fresh (overNode x e.matchers.matchers) i u).leaves)
        [⟨Document.root, "body", []⟩] "" "" ∧
      g.maskIds.length = f.maskIds.length + (e.apply d x).2.masksCreated := by
  obtain ⟨htracks, -⟩ := (Tracks.self h.wellFormed).apply hx hs hclean
  obtain ⟨g, hg, hblur⟩ := htracks.exists_body (List.mem_map_of_mem h.mem_trees)
  refine ⟨g, hg, hblur, ?_⟩
  have hmasks := (e.apply_masks h.wellFormed x).maskCount
  rw [Document.maskIds, Document.maskIds, hg.tree?_root, h.tree?_root] at hmasks
  simpa only [Option.getD_some, Forest.maskIds, List.append_nil] using hmasks

end Engine

end TextMasking
