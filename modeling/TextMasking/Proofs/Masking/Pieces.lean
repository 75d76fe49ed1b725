import TextMasking.Proofs.Document.Children
import TextMasking.Proofs.Masking.Reversal
import TextMasking.Proofs.Masking.Textwise

/-! # Passes are local

A pass over an element makes of each text what passes over its children make of it, in whatever
order these come (`Turn.yield_pieces`): only the turns of the child that holds the text reach it.
So if no rule is given up, the passes over the children come to the same tree as the one over the
element, with as many masks of each pattern (`Engine.apply_pieces`).

This holds unless two rules find something in a child that is a text itself.  Such a text loses its
parent to the first of them, and what is left of it is not below the text, so the others do not
reach it (`Engine.not_apply_pieces_text`). -/

namespace TextMasking

/-- Nothing is found in the passage. -/
def Matcher.FindsNone (m : Matcher) (options : Options) (p : Passage) : Prop :=
  m.scan p.before p.text p.after options = .ok []

instance (m : Matcher) (options : Options) (p : Passage) : Decidable (m.FindsNone options p) :=
  match h : m.scan p.before p.text p.after options with
  | .ok [] => .isTrue h
  | .ok (_ :: _) => .isFalse fun e => by rw [Matcher.FindsNone, h] at e; cases e
  | .error _ => .isFalse fun e => by rw [Matcher.FindsNone, h] at e; cases e

namespace Turn

variable {options : Options} {n : NodeId} {ts ts' : List Turn} {d : Document} {r : Report}
  {trees : List Forest} {ms : List Matcher} {x : NodeId} {i : NodeId} {u : TextUnit}

/-! ### Turns over the children -/

variable {o : Options} {P : NodeId → TextUnit → Prop}

theorem Agree.refl (ts : List Turn) : Agree o P ts ts := by
  induction ts with
  | nil => exact .nil
  | cons t ts ih => exact .same (fun _ _ _ => rfl) rfl ih

theorem Agree.of_idle (h : ∀ t ∈ ts, ∀ i u, P i u → t.scan o i u = .ok []) : Agree o P ts [] := by
  induction ts with
  | nil => exact .nil
  | cons t ts ih =>
      obtain ⟨ht, hts⟩ := List.forall_mem_cons.mp h
      exact .idle ht (ih hts)

theorem Agree.append {us us' : List Turn} (h : Agree o P ts ts') (h' : Agree o P us us') :
    Agree o P (ts ++ us) (ts' ++ us') := by
  induction h with
  | nil => exact h'
  | idle hidle _ ih => exact .idle hidle ih
  | same hscan hpattern _ ih => exact .same hscan hpattern ih

theorem Agree.overNode {c : NodeId}
    (h : ∀ i u, P i u → ∀ m, (Turn.mk m c).scan o i u = (Turn.mk m x).scan o i u) :
    Agree o P (overNode c ms) (overNode x ms) := by
  induction ms with
  | nil => exact .nil
  | cons m ms ih => exact .same (fun i u hu => h i u hu m) rfl ih

/-- Turns over a row of nodes. -/
def pieces (order : List NodeId) (ms : List Matcher) : List Turn :=
  order.flatMap (overNode · ms)

theorem mem_pieces {order : List NodeId} {t : Turn} (h : t ∈ pieces order ms) :
    t.scope ∈ order := by
  obtain ⟨c, hc, ht⟩ := List.mem_flatMap.mp h
  exact scope_of_mem_overNode ht ▸ hc

/-- Turns of which only those over one node do something are these. -/
theorem Agree.flatMap {T : NodeId → List Turn} {order : List NodeId} {c : NodeId}
    (hn : order.Nodup) (hc : c ∈ order)
    (h : ∀ z ∈ order, z ≠ c → ∀ t ∈ T z, ∀ i u, P i u → t.scan o i u = .ok []) :
    Agree o P (order.flatMap T) (T c) := by
  obtain ⟨pre, post, rfl⟩ := List.append_of_mem hc
  have hnot : c ∉ pre ++ post := (List.nodup_cons.mp (List.nodup_middle.mp hn)).1
  have hidle (l : List NodeId) (hl : l ⊆ pre ++ post) : Agree o P (l.flatMap T) [] := by
    refine .of_idle fun t ht => ?_
    obtain ⟨z, hz, ht⟩ := List.mem_flatMap.mp ht
    refine h z ?_ ?_ t ht
    · have hmem := hl hz
      rw [List.mem_append] at hmem ⊢
      exact hmem.imp_right (List.mem_cons_of_mem c)
    · rintro rfl
      exact hnot (hl hz)
  have hagree := (hidle pre (List.subset_append_left _ _)).append
    ((Agree.refl (T c)).append (hidle post (List.subset_append_right _ _)))
  rw [List.nil_append, List.append_nil] at hagree
  rw [List.flatMap_append, List.flatMap_cons]
  exact hagree

/-- A turn that reaches a part of a text has a scope that holds the text. -/
theorem PartOf.held {above : List Forest.Ancestor} {j : NodeId} {v : TextUnit} {t : Turn}
    (h : PartOf n i above j v) (hscope : t.scope < n) (hr : t.Reaches j v) :
    i = t.scope ∨ t.scope ∈ above.map (·.id) := by
  obtain ⟨habove, hj⟩ := h
  rw [← habove]
  refine hr.2.imp_left fun e => ?_
  rcases hj with rfl | rfl
  · exact e
  · exact absurd hscope (e ▸ Nat.lt_irrefl _)

/-- Over a text, turns over the children are those over the child that holds it. -/
theorem agree_pieces (wf : d.WellFormed) {order : List NodeId} (ho : order.Perm (d.children x))
    (hu : (i, u) ∈ d.units) {c : NodeId} (hc : c ∈ d.children x)
    (hcu : i = c ∨ c ∈ u.above.map (·.id)) :
    Agree options (PartOf d.fresh i u.above) (pieces order ms) (overNode c ms) := by
  refine .flatMap (ho.nodup_iff.mpr (wf.children_nodup x)) (ho.mem_iff.mpr hc) ?_
  -- the other children do not hold the text, nor what is left of it
  intro z hz hne t ht j v hpart
  obtain rfl := scope_of_mem_overNode ht
  have hscope := ho.subset hz
  refine scan_of_not_reaches fun hr => hne ?_
  have hlt := wf.mem_ids_iff.mp (Document.mem_ids_of_mem_above
    (wf.mem_above_of_mem_children hscope))
  have hheld := hpart.held hlt hr
  rw [← wf.above_of_mem_units hu] at hcu hheld
  exact wf.child_unique hscope hc hheld hcu

/-- **What comes of a text in the passes over the children** is what comes of it in the pass over
the element. -/
theorem yield_pieces (wf : d.WellFormed) (hms : ∀ m ∈ ms, m.Anchored) {order : List NodeId}
    (ho : order.Perm (d.children x)) (hu : (i, u) ∈ d.units) (hix : i ≠ x)
    (hone : i ∈ d.children x → ms.Pairwise fun m m' => (Turn.mk m x).scan options i u = .ok [] ∨
      (Turn.mk m' x).scan options i u = .ok [])
    (hclean : Clean (yield options d.fresh (overNode x ms) i u).scans) :
    yield options d.fresh (pieces order ms) i u = yield options d.fresh (overNode x ms) i u := by
  have habove := wf.above_of_mem_units hu
  by_cases hx : x ∈ d.above i
  · obtain ⟨c, hc, hcu⟩ := wf.exists_child hx
    rw [habove] at hx hcu
    rw [yield_agree (agree_pieces wf ho hu hc hcu) ⟨rfl, .inl rfl⟩]
    rcases hcu with rfl | hcu
    · have hin : i ≠ d.fresh := by
        rintro rfl
        exact wf.fresh_not_mem (Document.mem_ids_of_mem_nodes (wf.mem_nodes_of_mem_units hu))
      exact yield_over_text hms hin (habove ▸ wf.not_mem_above_self) hx (hone hc) hclean
    · refine yield_agree (Agree.overNode (P := PartOf d.fresh i u.above) ?_) ⟨rfl, .inl rfl⟩
      rintro j v ⟨hv, -⟩ m
      have hreach : (Turn.mk m c).Reaches j v ↔ (Turn.mk m x).Reaches j v := by
        simp only [Reaches, hv, hcu, hx, or_true]
      simp only [scan, hreach]
  · have hidle : ∀ t : Turn, t.scope = x ∨ t.scope ∈ d.children x →
        t.scan options i u = .ok [] := by
      refine fun t ht => scan_of_not_reaches fun hr => ?_
      have hscope := hr.2
      rw [← habove] at hscope
      rcases ht with e | hc
      · rw [e] at hscope
        exact hscope.elim hix hx
      · have hxc := wf.mem_above_of_mem_children hc
        rcases hscope with rfl | hscope
        · exact hx hxc
        · exact hx (wf.above_subset hscope hxc)
    rw [yield_of_idle fun t ht => hidle t (.inr (ho.subset (mem_pieces ht))),
      yield_of_idle fun t ht => hidle t (.inl (scope_of_mem_overNode ht))]

/-- Of two matchers one finds nothing in a text if one finds nothing in its passage. -/
theorem pairwise_idle (wf : d.WellFormed) (hu : (i, u) ∈ d.units)
    (hone : (i, u.passage) ∈ d.passages x options → ms.Pairwise fun m m' =>
      m.FindsNone options u.passage ∨ m'.FindsNone options u.passage) :
    ms.Pairwise fun m m' => (Turn.mk m x).scan options i u = .ok [] ∨
      (Turn.mk m' x).scan options i u = .ok [] := by
  have hscan (m : Matcher) := scan_of_mem_units ⟨m, x⟩ options wf hu
  by_cases hpass : (i, u.passage) ∈ d.passages x options
  · have hidle (m : Matcher) (h : m.FindsNone options u.passage) :
        (Turn.mk m x).scan options i u = .ok [] :=
      (hscan m).elim id fun hm => hm.2.trans h
    exact (hone hpass).imp fun h => h.imp (hidle _) (hidle _)
  · exact List.pairwise_of_forall fun m _ => .inl ((hscan m).resolve_right fun h => hpass h.1)

/-- Turns that make the same of the texts make the same of the trees. -/
theorem afterAll_congr (h : ∀ f ∈ trees, ∀ p ∈ f.textsIn [] "" "",
      yield options n ts p.1 p.2 = yield options n ts' p.1 p.2) :
    afterAll options n ts trees = afterAll options n ts' trees ∧
      scansOf options n ts trees = scansOf options n ts' trees := by
  constructor
  · refine List.map_congr_left fun f hf => Forest.rewrite_congr fun p hp => ?_
    rw [h f hf p hp]
  · refine List.flatMap_congr fun f hf => List.flatMap_congr fun p hp => ?_
    rw [h f hf p hp]

theorem steady_takeAll (options : Options) (ts : List Turn) (r : Report) (wf : d.WellFormed)
    (hx : d.Steady x) : (takeAll options ts (d, r)).1.Steady x := by
  induction ts generalizing d r with
  | nil => exact hx
  | cons t ts ih =>
      obtain ⟨k, -, hmasks⟩ := t.matcher.apply_masks (r := r) wf t.scope options
      exact ih (t.take options (d, r)).2 hmasks.remasked.wellFormed
        (Tracks.steady_take t options r wf hx)

end Turn

/-! ### Passes -/

open Turn (overNode pieces Clean afterAll scansOf)

theorem Engine.apply_eq_takeAll (e : Engine) (d : Document) (x : NodeId) :
    e.apply d x = Turn.takeAll e.options (overNode x e.matchers.matchers)
      (d, { Report.empty with compileSkips := e.matchers.skipped }) := by
  rw [Engine.apply, Turn.takeAll, overNode, List.foldl_map]
  rfl

namespace Tracks

variable {n : NodeId} {d : Document} {trees : List Forest} {e : Engine} {x : NodeId}

theorem scope_steady {ms : List Matcher} (hx : x < n) (hs : d.Steady x) :
    ∀ t ∈ overNode x ms, t.scope < n ∧ d.Steady t.scope :=
  fun _ ht => Turn.scope_of_mem_overNode ht ▸ ⟨hx, hs⟩

/-- A pass in which no rule is given up finds no fault in the trees. -/
theorem clean_of_apply (h : Tracks n trees d) (hx : x < n) (hs : d.Steady x)
    (hskip : (e.apply d x).2.scanSkips = []) :
    Clean (scansOf e.options n (overNode x e.matchers.matchers) trees) := by
  rw [e.apply_eq_takeAll] at hskip
  exact Turn.clean_of_takeAll h (scope_steady hx hs) hskip

/-- **A pass:** the trees after its turns follow the document after it. -/
theorem apply (h : Tracks n trees d) (hx : x < n) (hs : d.Steady x)
    (hclean : Clean (scansOf e.options n (overNode x e.matchers.matchers) trees)) :
    Tracks n (afterAll e.options n (overNode x e.matchers.matchers) trees) (e.apply d x).1 ∧
      Counts (scansOf e.options n (overNode x e.matchers.matchers) trees) Report.empty
        (e.apply d x).2 := by
  obtain ⟨htracks, hcounts⟩ :=
    h.takeAll (r := { Report.empty with compileSkips := e.matchers.skipped })
      (scope_steady hx hs) hclean
  rw [e.apply_eq_takeAll]
  exact ⟨htracks, hcounts.masksCreated, hcounts.occurrences⟩

/-- **Passes in a row:** the trees after all their turns follow the document after them, and their
reports count what they find. -/
theorem passAll {order : List NodeId} (h : Tracks n trees d)
    (ho : ∀ c ∈ order, c < n ∧ d.Steady c)
    (hclean : Clean (scansOf e.options n (pieces order e.matchers.matchers) trees)) :
    let scans := scansOf e.options n (pieces order e.matchers.matchers) trees
    let run := d.passAll (order.map (e, ·))
    Tracks n (afterAll e.options n (pieces order e.matchers.matchers) trees) run.2 ∧
      (run.1.map (·.masksCreated)).sum = (scans.map Scanned.count).sum ∧
      ∀ pattern, (run.1.map (·.occurrences pattern)).sum =
        ((scans.filter (·.pattern = pattern)).map Scanned.count).sum := by
  induction order generalizing d trees with
  | nil =>
      rw [pieces, List.flatMap_nil, Turn.afterAll_nil, Turn.scansOf_nil]
      exact ⟨h, rfl, fun _ => rfl⟩
  | cons c order ih =>
      obtain ⟨⟨hc, hs⟩, ho⟩ := List.forall_mem_cons.mp ho
      have hcons : pieces (c :: order) e.matchers.matchers =
          overNode c e.matchers.matchers ++ pieces order e.matchers.matchers := List.flatMap_cons
      rw [hcons] at hclean ⊢
      have hperm : (scansOf e.options n (overNode c e.matchers.matchers ++
        pieces order e.matchers.matchers) trees).Perm _ := Turn.scansOf_append
      obtain ⟨hfirst, hrest⟩ := List.forall_mem_append.mp fun s hs =>
        hclean s (hperm.mem_iff.mpr hs)
      obtain ⟨htracks, hmasks, hocc⟩ := h.apply hc hs hfirst
      have ho' : ∀ c' ∈ order, c' < n ∧ (e.apply d c).1.Steady c' := by
        intro c' hc'
        rw [e.apply_eq_takeAll]
        exact ⟨(ho c' hc').1, Turn.steady_takeAll _ _ _ h.wellFormed (ho c' hc').2⟩
      obtain ⟨htracks', hmasks', hocc'⟩ := ih htracks ho' hrest
      have hzero (pattern : String) : Report.empty.occurrences pattern = 0 := rfl
      rw [Turn.afterAll_append, List.map_cons, Document.passAll_cons]
      refine ⟨htracks', ?_, fun pattern => ?_⟩
      · rw [(hperm.map _).sum_nat, List.map_append, List.sum_append, ← hmasks', List.map_cons,
          List.sum_cons, hmasks, Report.empty, Nat.zero_add]
      · rw [((hperm.filter _).map _).sum_nat, List.filter_append, List.map_append, List.sum_append,
          ← hocc', List.map_cons, List.sum_cons, hocc, hzero, Nat.zero_add]

/-- A node that is not a text and not a new leaf is that of the trees, with what lies below it. -/
theorem tree?_of_not_text (h : Tracks n trees d) (hx : x < n)
    (hno : ∀ s, (x, .text s) ∉ d.nodes) :
    (d.tree? x).map (Forest.blur n) = trees.findSome? (·.find? x) := by
  obtain ⟨loose, hloose, htrees⟩ := h.trees_eq
  have hnone : loose.findSome? (·.find? x) = none := by
    rw [List.findSome?_eq_none_iff]
    intro f hf
    obtain ⟨i, s, -, rfl⟩ := hloose f hf
    have hi : i ≠ x := by
      rintro rfl
      obtain ⟨g, hg, hblur⟩ := List.mem_map.mp (htrees ▸ List.mem_append_right trees hf)
      refine hno s (List.mem_flatMap.mpr ⟨g, hg, ?_⟩)
      cases g with
      | text j s' rest =>
          obtain ⟨hj, rfl, -⟩ := Forest.text.inj hblur
          obtain rfl : j = i := by grind
          exact List.mem_cons_self
      | _ => cases hblur
    rw [Forest.find?, if_neg hi, Forest.find?]
  have hblur (ts : List Forest) : (ts.findSome? (·.place? x)).map (fun p => p.node.blur n) =
      (ts.map (Forest.blur n)).findSome? (·.find? x) := by
    induction ts with
    | nil => rfl
    | cons f ts ih =>
        rw [List.map_cons, List.findSome?_cons, List.findSome?_cons, Forest.find?_blur hx,
          ← Forest.map_node_place?]
        cases f.place? x with
        | none => exact ih
        | some p => rfl
  rw [Document.tree?, Document.place?, Option.map_map]
  refine (hblur d.trees).trans ?_
  rw [htrees, List.findSome?_append, hnone, Option.or_none]

/-- The root with what lies below it is that of the trees. -/
theorem tree?_root (h : Tracks n trees d) :
    (d.tree? Document.root).map (Forest.blur n) = trees.findSome? (·.find? Document.root) := by
  refine h.tree?_of_not_text h.pos fun s hs => ?_
  obtain ⟨t, hroot⟩ := h.wellFormed.root_mem
  cases h.wellFormed.kind_unique hs hroot

end Tracks

namespace Engine

/-- **Passes are local.**  In a document that can be reached, let no rule be given up in a pass over
an attached element, and let no two rules find something in a text that is a child of it.  Then
passes over the children, in any order, come to the same tree up to the numbers of new nodes; they
make as many masks, and mask each pattern as often. -/
theorem apply_pieces (s : String) (changes : List TreeChange) (e : Engine) (x : NodeId)
    (order : List NodeId) :
    let d := (Document.ofPlainText s).changeAll changes
    let whole := e.apply d x
    let pieced := d.passAll (order.map (e, ·))
    d.attached x = true → (d.tag? x).isSome → order.Perm (d.children x) → whole.2.scanSkips = [] →
    (∀ q ∈ d.passages x e.options, q.1 ∈ d.children x → e.matchers.matchers.Pairwise fun m m' =>
      m.FindsNone e.options q.2 ∨ m'.FindsNone e.options q.2) →
    (pieced.2.tree? Document.root).map (Forest.blur d.fresh) =
        (whole.1.tree? Document.root).map (Forest.blur d.fresh) ∧
      (pieced.1.map (·.masksCreated)).sum = whole.2.masksCreated ∧
      ∀ pattern, (pieced.1.map (·.occurrences pattern)).sum = whole.2.occurrences pattern := by
  intro d whole pieced hx htag ho hskip hone
  have wf : d.WellFormed :=
    Document.wellFormed_changeAll (Document.wellFormed_ofPlainText s) changes
  have hself := Tracks.self wf
  obtain ⟨t, a, g, helement⟩ := Document.isSome_tag?_iff.mp htag
  have hxlt : x < d.fresh := wf.mem_ids_iff.mp (Document.mem_ids_of_tree? helement)
  have hsteady : ∀ c ∈ order, c < d.fresh ∧ d.Steady c := fun c hc =>
    ⟨wf.mem_ids_iff.mp (Document.mem_ids_of_mem_above
        (wf.mem_above_of_mem_children (ho.subset hc))),
      .inl (wf.attached_of_mem_children (ho.subset hc) hx)⟩
  have hclean := hself.clean_of_apply hxlt (.inl hx) hskip
  have hyield : ∀ f ∈ d.trees, ∀ p ∈ f.textsIn [] "" "",
      Turn.yield e.options d.fresh (pieces order e.matchers.matchers) p.1 p.2 =
        Turn.yield e.options d.fresh (overNode x e.matchers.matchers) p.1 p.2 := by
    intro f hf p hp
    have hu := Document.mem_units_of_mem_textsIn hf hp
    have hpx : p.1 ≠ x := by
      rintro rfl
      rw [wf.tree?_text_iff.mpr (wf.mem_nodes_of_mem_units hu)] at helement
      cases helement
    refine Turn.yield_pieces wf anchored_of_mem ho hu hpx (fun hc => ?_) fun s hs =>
      hclean s (List.mem_flatMap.mpr ⟨f, hf, List.mem_flatMap.mpr ⟨p, hp, hs⟩⟩)
    exact Turn.pairwise_idle wf hu fun hpass => hone (p.1, p.2.passage) hpass hc
  obtain ⟨hafter, hscans⟩ := Turn.afterAll_congr hyield
  obtain ⟨hwhole, hmasks, hocc⟩ := hself.apply hxlt (.inl hx) hclean
  obtain ⟨hpieced, hmasks', hocc'⟩ := hself.passAll hsteady (hscans ▸ hclean)
  refine ⟨?_, ?_, fun pattern => ?_⟩
  · rw [hpieced.tree?_root, hwhole.tree?_root, hafter]
  · rw [hmasks', hscans, hmasks, Report.empty, Nat.zero_add]
  · rw [hocc', hscans, hocc]
    exact (Nat.zero_add _).symm

/-- A text with one rule's matches, and an element with matches of both rules, which come first. -/
theorem apply_pieces_reversed :
    let changes : List TreeChange := [.host (.appendText 0 "Acme, "),
      .host (.appendElement 0 "p"), .host (.appendText 2 "Bob meets Acme")]
    let e := Engine.ofRules [.literal "Acme" "[A]", .literal "Bob" "[B]"] .default
    let d := (Document.ofPlainText "").changeAll changes
    let whole := e.apply d Document.root
    let pieced := d.passAll ([2, 1].map (e, ·))
    whole.2.masksCreated = 3 ∧
      ((pieced.2.tree? Document.root).map (Forest.blur d.fresh) =
          (whole.1.tree? Document.root).map (Forest.blur d.fresh) ∧
        (pieced.1.map (·.masksCreated)).sum = whole.2.masksCreated ∧
        ∀ pattern, (pieced.1.map (·.occurrences pattern)).sum =
          whole.2.occurrences pattern) :=
  ⟨by decide +kernel, apply_pieces ""
    [.host (.appendText 0 "Acme, "), .host (.appendElement 0 "p"),
      .host (.appendText 2 "Bob meets Acme")]
    (.ofRules [.literal "Acme" "[A]", .literal "Bob" "[B]"] .default) Document.root [2, 1]
    (by decide +kernel) (by decide +kernel) (by decide +kernel) (by decide +kernel)
    (by decide +kernel)⟩

/-- Two rules find something in a text that is a child of the root.  The pass over the root makes
two masks; the one over the text makes the first of them, and what follows it stays readable. -/
theorem not_apply_pieces_text : ¬∀ (s : String) (changes : List TreeChange) (e : Engine)
    (x : NodeId) (order : List NodeId),
    let d := (Document.ofPlainText s).changeAll changes
    let whole := e.apply d x
    let pieced := d.passAll (order.map (e, ·))
    d.attached x = true → (d.tag? x).isSome → order.Perm (d.children x) → whole.2.scanSkips = [] →
    (pieced.2.tree? Document.root).map (Forest.blur d.fresh) =
        (whole.1.tree? Document.root).map (Forest.blur d.fresh) ∧
      (pieced.1.map (·.masksCreated)).sum = whole.2.masksCreated ∧
      ∀ pattern, (pieced.1.map (·.occurrences pattern)).sum = whole.2.occurrences pattern := by
  intro h
  have hmasks := (h "" [.host (.appendText 0 "Acme Bob")]
    (.ofRules [.literal "Acme" "[A]", .literal "Bob" "[B]"] .default) Document.root [1]
    (by decide +kernel) (by decide +kernel) (by decide +kernel) (by decide +kernel)).2.1
  revert hmasks
  decide +kernel

end Engine

end TextMasking
