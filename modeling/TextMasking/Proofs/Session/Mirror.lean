import TextMasking.Proofs.Document.OutlineEdits
import TextMasking.Proofs.Session.Events

/-! # Documents that mirror each other

The same edits are made in two documents: in the host's own one, which is never masked, and in one
where sessions mask texts between the edits.  Nodes have other numbers there, so the host names its
nodes in order of creation.  The second document mirrors the first (`Mirrors`): the elements have
the same outlines up to names, and texts that were not yet put anywhere are the same.

* `Mirrors.remasked` — what a session does keeps this;
* `Mirrors.edit` — an edit of the host keeps it, and is refused in both documents or in none. -/

namespace TextMasking

namespace HostEdit

/-- The edit with other numbers. -/
def rename (ν : NodeId → NodeId) : HostEdit → HostEdit
  | .createElement tag => .createElement tag
  | .createText content => .createText content
  | .appendElement parent tag => .appendElement (ν parent) tag
  | .appendText parent content => .appendText (ν parent) content
  | .appendChild parent child => .appendChild (ν parent) (ν child)
  | .remove id => .remove (ν id)
  | .setAttribute id name value => .setAttribute (ν id) name value
  | .takeLog => .takeLog

/-- Whether the edit makes a node. -/
def makes : HostEdit → Bool
  | .createElement _ | .createText _ | .appendElement .. | .appendText .. => true
  | _ => false

/-- The edit takes no text out of its parent: a session may have taken it apart there. -/
def KeepsTexts (d : Document) : HostEdit → Prop
  | .remove id => d.text? id = none
  | .appendChild _ child => d.text? child = none ∨ d.parent? child = none
  | _ => True

/-- None of the edits, made in order, takes a text out of its parent. -/
def KeepTexts (d : Document) : List HostEdit → Prop
  | [] => True
  | e :: edits => e.KeepsTexts d ∧ KeepTexts (d.edit e).2 edits

end HostEdit

theorem Document.tree?_ne_text {d : Document} {n : NodeId} (hk : d.text? n = none) (s : String) :
    d.tree? n ≠ some (.text n s .nil) := by
  intro ht
  rw [text?, ht] at hk
  cases hk

/-! ### The simulation -/

/-- The document `d` mirrors the host's own document `h`, whose node `n` it knows as `names[n]`: the
elements have the same outlines, and texts without a parent are the same. -/
structure Mirrors (names : List NodeId) (h d : Document) : Prop where
  host_wellFormed : h.WellFormed
  host_maskFree : h.MaskFree
  wellFormed : d.WellFormed
  length_eq : names.length = h.fresh
  nodup : names.Nodup
  lt_fresh : ∀ x ∈ names, x < d.fresh
  root_eq : names.getD Document.root 0 = Document.root
  outlines_eq : d.outlines = h.outlines.map (Outline.rename fun n => names.getD n 0)
  loose : ∀ n s, .text n s .nil ∈ h.trees → .text (names.getD n 0) s .nil ∈ d.trees

namespace Mirrors

variable {names : List NodeId} {h d : Document} (m : Mirrors names h d)
include m

theorem injective {i n : NodeId} (hi : i < h.fresh) (hn : n < h.fresh)
    (e : names.getD i 0 = names.getD n 0) : i = n := by
  rw [← m.length_eq] at hi hn
  simp only [List.getD_eq_getElem?_getD, List.getElem?_eq_getElem hi,
    List.getElem?_eq_getElem hn, Option.getD_some] at e
  exact (m.nodup.getElem_inj_iff).mp e

theorem lt_fresh_of_mem_outlines {o : Outline} (ho : o ∈ h.outlines) {i : NodeId}
    (hi : i ∈ o.ids) : i < h.fresh := by
  obtain ⟨t, ht, hto⟩ := List.mem_filterMap.mp ho
  obtain ⟨j, hj⟩ := m.host_wellFormed.isNode t ht
  rw [(Forest.elementOutline?_eq_some hj hto).1] at hi
  obtain ⟨tag, htag⟩ := Forest.mem_ids_outline.mp hi
  refine m.host_wellFormed.mem_ids_iff.mp ?_
  exact List.mem_flatMap.mpr ⟨t, ht, Forest.mem_ids_of_mem_nodes htag⟩

theorem separates {o : Outline} (ho : o ∈ h.outlines) {n : NodeId} (hn : n < h.fresh) :
    Outline.Separates (fun n => names.getD n 0) o n :=
  fun _ hi e => m.injective (m.lt_fresh_of_mem_outlines ho hi) hn e

/-- An element that the host knows has the outline that it has in the host's own document. -/
theorem outline?_eq {n : NodeId} (hn : n < h.fresh) :
    d.outline? (names.getD n 0) =
      (h.outline? n).map (Outline.rename fun n => names.getD n 0) := by
  have hsep := fun o ho => m.separates (o := o) ho hn
  rw [m.wellFormed.outline?_eq, m.host_wellFormed.outline?_eq, m.outlines_eq]
  generalize h.outlines = os at hsep
  induction os with
  | nil => rfl
  | cons o os ih =>
      have ih := ih fun p hp => hsep p (List.mem_cons_of_mem _ hp)
      rw [List.map_cons, List.findSome?_cons, List.findSome?_cons,
        Outline.find?_rename (hsep o List.mem_cons_self)]
      cases o.find? n with
      | none => exact ih
      | some p => rfl

/-- A session may mask what it likes. -/
theorem remasked {d' : Document} (hr : d.Remasked d') : Mirrors names h d' where
  host_wellFormed := m.host_wellFormed
  host_maskFree := m.host_maskFree
  wellFormed := hr.wellFormed
  length_eq := m.length_eq
  nodup := m.nodup
  lt_fresh := by
    intro x hx
    have hid := m.wellFormed.mem_ids_iff.mpr (m.lt_fresh x hx)
    rw [← Document.map_fst_shapes] at hid
    rw [← hr.wellFormed.mem_ids_iff, ← Document.map_fst_shapes]
    exact List.map_subset _ hr.shapes_subset hid
  root_eq := m.root_eq
  outlines_eq := hr.outlines_eq.trans m.outlines_eq
  loose := fun n s hs => hr.loose _ _ (m.loose n s hs)

/-! ### New nodes -/

theorem getD_of_lt {n : NodeId} (hn : n < h.fresh) (x : NodeId) :
    (names ++ [x]).getD n 0 = names.getD n 0 := by
  rw [← m.length_eq] at hn
  rw [List.getD_eq_getElem?_getD, List.getElem?_append_left hn, List.getD_eq_getElem?_getD]

theorem getD_fresh (x : NodeId) : (names ++ [x]).getD h.fresh 0 = x := by
  rw [← m.length_eq, List.getD_eq_getElem?_getD, List.getElem?_concat_length, Option.getD_some]

/-- Both documents get a tree; the host names the node. -/
theorem addTree {tree tree' : Forest} {k k' : NodeKind} (ht : Forest.IsNode h.fresh tree)
    (hk : tree.shapes = [(h.fresh, k)]) (ht' : Forest.IsNode d.fresh tree')
    (hk' : tree'.shapes = [(d.fresh, k')]) (hmask : ∀ i mk, (i, .mask mk) ∉ [(h.fresh, k)])
    (ho : tree'.elementOutline? =
      tree.elementOutline?.map (Outline.rename fun n => (names ++ [d.fresh]).getD n 0))
    (hl : ∀ n s, tree = .text n s .nil → n = h.fresh ∧ tree' = .text d.fresh s .nil) :
    Mirrors (names ++ [d.fresh]) (h.addTree tree) (d.addTree tree') := by
  have he := Document.Extends.addTree m.host_wellFormed ht hk
  have he' := Document.Extends.addTree m.wellFormed ht' hk'
  refine ⟨he.wellFormed m.host_wellFormed, ?_, he'.wellFormed m.wellFormed, ?_, ?_, ?_, ?_, ?_, ?_⟩
  · intro i mk hi
    exact (he.mask_mem_iff.mp hi).elim (m.host_maskFree i mk) (hmask i mk)
  · rw [List.length_append, m.length_eq]
    rfl
  · refine List.nodup_append.mpr ⟨m.nodup, List.nodup_singleton _, ?_⟩
    rintro x hx y hy rfl
    rw [List.mem_singleton.mp hy] at hx
    exact Nat.lt_irrefl _ (m.lt_fresh _ hx)
  · intro x hx
    rcases List.mem_append.mp hx with hx | hx
    · exact Nat.lt_succ_of_lt (m.lt_fresh x hx)
    · rw [List.mem_singleton.mp hx]
      exact Nat.lt_succ_self _
  · have hroot : Document.root < h.fresh := by
      obtain ⟨t, ht⟩ := m.host_wellFormed.root_mem
      exact m.host_wellFormed.mem_ids_iff.mp (Document.mem_ids_of_mem_nodes ht)
    rw [m.getD_of_lt hroot, m.root_eq]
  · have houtlines : h.outlines.map (Outline.rename fun n => names.getD n 0) =
        h.outlines.map (Outline.rename fun n => (names ++ [d.fresh]).getD n 0) := by
      refine List.map_congr_left fun o ho => Outline.rename_congr fun i hi => ?_
      exact (m.getD_of_lt (m.lt_fresh_of_mem_outlines ho hi) _).symm
    have hd : (d.addTree tree').outlines = d.outlines ++ [tree'].filterMap Forest.elementOutline? :=
      List.filterMap_append ..
    have hh : (h.addTree tree).outlines = h.outlines ++ [tree].filterMap Forest.elementOutline? :=
      List.filterMap_append ..
    rw [hd, hh, List.map_append, m.outlines_eq, houtlines]
    congr 1
    rw [List.filterMap_cons, List.filterMap_cons, ho]
    cases tree.elementOutline? <;> rfl
  · intro n s hs
    rcases List.mem_append.mp hs with hs | hs
    · have hn := m.host_wellFormed.mem_ids_iff.mp
        (List.mem_flatMap.mpr ⟨_, hs, List.mem_cons_self⟩)
      rw [m.getD_of_lt hn]
      exact List.mem_append_left _ (m.loose n s hs)
    · obtain ⟨rfl, e⟩ := hl n s (List.mem_singleton.mp hs).symm
      rw [m.getD_fresh, ← e]
      exact List.mem_append_right _ (List.mem_singleton.mpr rfl)

theorem createElement (tag : String) :
    Mirrors (names ++ [d.fresh]) (h.createElement tag).2 (d.createElement tag).2 := by
  refine m.addTree (.element _ _ _) rfl (.element _ _ _) rfl (by simp [NodeKind.shape]) ?_
    (by simp)
  simp only [Forest.elementOutline?, Option.map_some, Outline.rename, m.getD_fresh]
  rfl

theorem createText (content : String) :
    Mirrors (names ++ [d.fresh]) (h.createText content).2 (d.createText content).2 := by
  refine m.addTree (.text _) rfl (.text _) rfl (by simp [NodeKind.shape]) rfl ?_
  intro n s e
  cases e
  exact ⟨rfl, rfl⟩

/-! ### Nodes that are moved -/

/-- A node that the host knows is an element, or it is a text with the same content and no parent in
both documents, unless it is a text that has a parent. -/
theorem element_or_loose {n : NodeId} (hn : n < h.fresh)
    (hk : h.text? n = none ∨ h.parent? n = none) :
    (∃ o, h.outline? n = some o) ∨
      h.outline? n = none ∧
        ∃ s, .text n s .nil ∈ h.trees ∧ .text (names.getD n 0) s .nil ∈ d.trees := by
  obtain ⟨p, hp⟩ := Document.exists_place?_iff.mpr (m.host_wellFormed.mem_ids_iff.mpr hn)
  have ht := Document.tree?_of_place? hp
  cases hnode : p.node with
  | nil =>
      rw [hnode] at ht
      cases Document.isNode_of_tree? ht
  | text i s rest =>
      rw [hnode] at ht
      obtain ⟨rfl, rfl⟩ : i = n ∧ rest = .nil := by
        cases Document.isNode_of_tree? ht
        exact ⟨rfl, rfl⟩
      have habove : p.above = [] := by
        rcases hk with hk | hk
        · rw [Document.text?, ht] at hk
          cases hk
        · rw [Document.parent?, Document.above, hp] at hk
          cases hab : p.above with
          | nil => rfl
          | cons x xs => simp [hab] at hk
      obtain ⟨-, hmem⟩ := m.host_wellFormed.place?_of_above_eq_nil hp habove
      rw [hnode] at hmem
      refine .inr ⟨?_, s, hmem, m.loose i s hmem⟩
      rw [Document.outline?, ht]
      rfl
  | mask i mk rest =>
      rw [hnode] at ht
      exact absurd (Document.nodes_subset_of_tree? ht List.mem_cons_self) (m.host_maskFree i mk)
  | element i t a c rest =>
      rw [hnode] at ht
      refine .inl ?_
      rw [Document.outline?, ht]
      exact ⟨_, rfl⟩

/-- A node that the host knows and that is no text is an element. -/
theorem exists_outline? {n : NodeId} (hn : n < h.fresh) (hk : h.text? n = none) :
    ∃ o, h.outline? n = some o := by
  refine (m.element_or_loose hn (.inl hk)).resolve_right ?_
  rintro ⟨-, s, hs, -⟩
  exact Document.tree?_ne_text hk s (m.host_wellFormed.tree?_of_mem_trees hs (.text s))

theorem lt_fresh_of_outline? {n i : NodeId} {o : Outline} (ho : h.outline? n = some o)
    (hi : i ∈ o.ids) : i < h.fresh := by
  obtain ⟨t, a, c, ht, rfl⟩ := Document.outline?_eq_some_iff.mp ho
  have : i ∈ (Forest.element n t a c .nil).outline.ids := hi
  obtain ⟨tag, htag⟩ := Forest.mem_ids_outline.mp this
  exact m.host_wellFormed.mem_ids_iff.mp
    (Document.mem_ids_of_mem_nodes (Document.nodes_subset_of_tree? ht htag))

/-- An unknown node is no node of either document. -/
theorem name_not_mem {n : NodeId} (hn : h.fresh ≤ n) : names.getD n d.fresh = d.fresh := by
  rw [← m.length_eq] at hn
  rw [List.getD_eq_getElem?_getD, List.getElem?_eq_none hn, Option.getD_none]

theorem name_eq {n : NodeId} (hn : n < h.fresh) (x : NodeId) :
    names.getD n x = names.getD n 0 := by
  rw [← m.length_eq] at hn
  simp only [List.getD_eq_getElem?_getD, List.getElem?_eq_getElem hn, Option.getD_some]

/-- A node is moved in both documents or in none. -/
theorem exists_appendChild_iff {parent child : NodeId}
    (hk : h.text? child = none ∨ h.parent? child = none) :
    (∃ d', d.appendChild (names.getD parent d.fresh) (names.getD child d.fresh) = .ok d') ↔
      ∃ h', h.appendChild parent child = .ok h' := by
  rw [m.wellFormed.exists_appendChild_iff, m.host_wellFormed.exists_appendChild_iff]
  rcases Nat.lt_or_ge parent h.fresh with hp | hp
  · rw [m.name_eq hp, m.outline?_eq hp, Option.isSome_map]
    refine and_congr_right fun _ => ?_
    rcases Nat.lt_or_ge child h.fresh with hc | hc
    · rw [m.name_eq hc, m.outline?_eq hc]
      have hin : child ∈ h.ids := m.host_wellFormed.mem_ids_iff.mpr hc
      rcases m.element_or_loose hc hk with ⟨o, ho⟩ | ⟨ho, s, -, hs⟩
      · obtain ⟨_, _, _, ht, -⟩ := Document.outline?_eq_some_iff.mp ((m.outline?_eq hc).trans
          (congrArg _ ho))
        have hin' := Document.mem_ids_of_tree? ht
        have hcycle : names.getD parent 0 ∈ o.ids.map (fun n => names.getD n 0) ↔
            parent ∈ o.ids := by
          refine ⟨fun hmem => ?_, fun hmem => List.mem_map.mpr ⟨parent, hmem, rfl⟩⟩
          obtain ⟨i, hi, e⟩ := List.mem_map.mp hmem
          rwa [← m.injective (m.lt_fresh_of_outline? ho hi) hp e]
        refine and_congr (iff_of_true hin' hin) ?_
        rw [ho, Option.map_some]
        simp only [Option.some.injEq, forall_eq', Outline.ids_rename, hcycle]
      · have hin' : names.getD child 0 ∈ d.ids :=
          List.mem_flatMap.mpr ⟨_, hs, List.mem_cons_self⟩
        refine and_congr (iff_of_true hin' hin) ?_
        rw [ho]
        simp only [Option.map_none, reduceCtorEq, false_imp_iff, implies_true]
    · have hout : child ∉ h.ids := mt m.host_wellFormed.mem_ids_iff.mp (Nat.not_lt_of_le hc)
      rw [m.name_not_mem hc]
      exact iff_of_false (fun h => m.wellFormed.fresh_not_mem h.1) fun h => hout h.1
  · have hout : h.outline? parent = none := m.host_wellFormed.outline?_eq_none hp
    have hout' : d.outline? d.fresh = none := m.wellFormed.outline?_eq_none (Nat.le_refl _)
    rw [m.name_not_mem hp, hout, hout']
    simp

/-- Edits that add no node keep the documents mirrors, if they do the same to outlines and to texts
without a parent. -/
theorem moved {h' d' : Document} (eh : Document.Extends h h' []) (ed : Document.Extends d d' [])
    (ho : d'.outlines = h'.outlines.map (Outline.rename fun n => names.getD n 0))
    (hl : ∀ n s, .text n s .nil ∈ h'.trees → .text (names.getD n 0) s .nil ∈ d'.trees) :
    Mirrors names h' d' where
  host_wellFormed := eh.wellFormed m.host_wellFormed
  host_maskFree := fun i mk hi =>
    (eh.mask_mem_iff.mp hi).elim (m.host_maskFree i mk) (List.not_mem_nil)
  wellFormed := ed.wellFormed m.wellFormed
  length_eq := m.length_eq.trans eh.fresh_eq.symm
  nodup := m.nodup
  lt_fresh := fun x hx => Nat.lt_of_lt_of_le (m.lt_fresh x hx) ed.fresh_le
  root_eq := m.root_eq
  outlines_eq := ho
  loose := hl

theorem map_rename_appendUnder {os : List Outline} (hos : ∀ o ∈ os, ∀ i ∈ o.ids, i < h.fresh)
    {parent : NodeId} (hp : parent < h.fresh) (o : Outline) :
    (os.map (Outline.rename fun n => names.getD n 0)).map
        (Outline.appendUnder (names.getD parent 0) (o.rename fun n => names.getD n 0)) =
      (os.map (Outline.appendUnder parent o)).map (Outline.rename fun n => names.getD n 0) := by
  rw [List.map_map, List.map_map]
  refine List.map_congr_left fun u hu => ?_
  exact (Outline.rename_appendUnder fun i hi e => m.injective (hos u hu i hi) hp e).symm

/-- Both documents move the node. -/
theorem appendChild {parent child : NodeId} {h' d' : Document}
    (hk : h.text? child = none ∨ h.parent? child = none)
    (hh : h.appendChild parent child = .ok h')
    (hd : d.appendChild (names.getD parent d.fresh) (names.getD child d.fresh) = .ok d') :
    Mirrors names h' d' := by
  obtain ⟨t, a, c, tree, hparent, hchild, -, -, htrees, -⟩ := Document.appendChild_cases hh
  obtain ⟨-, -, -, tree', -, -, -, -, htrees', -⟩ := Document.appendChild_cases hd
  have hp : parent < h.fresh := m.host_wellFormed.mem_ids_iff.mp (Document.mem_ids_of_tree? hparent)
  have hc : child < h.fresh := m.host_wellFormed.mem_ids_iff.mp (Document.mem_ids_of_tree? hchild)
  have eh := Document.Extends.appendChild m.host_wellFormed hh
  have ed := Document.Extends.appendChild m.wellFormed hd
  rw [m.name_eq hp, m.name_eq hc] at hd
  refine m.moved eh ed ?_ ?_
  · rcases m.element_or_loose hc hk with ⟨o, ho⟩ | ⟨-, s, hs, hs'⟩
    · have ho' := (m.outline?_eq hc).trans (congrArg _ ho)
      rw [m.wellFormed.outlines_appendChild ho' hd,
        m.host_wellFormed.outlines_appendChild ho hh, m.outlines_eq,
        ← Outline.map_rename_eraseFrom fun o ho => m.separates ho hc,
        m.map_rename_appendUnder ?_ hp]
      intro u hu i hi
      obtain ⟨v, hv, rfl⟩ := List.mem_map.mp (List.mem_filter.mp hu).1
      exact m.lt_fresh_of_mem_outlines hv (Outline.mem_ids_of_mem_erase hi)
    · rw [m.wellFormed.outlines_appendChild_text hs' hd,
        m.host_wellFormed.outlines_appendChild_text hs hh, m.outlines_eq,
        ← m.map_rename_appendUnder (fun u hu i => m.lt_fresh_of_mem_outlines hu) hp]
      rfl
  · intro n s hs
    rw [htrees, Forest.text_mem_map_appendChild fun _ => m.host_wellFormed.isNode_erase,
      Document.erase, Forest.text_mem_filter_erase m.host_wellFormed.isNode] at hs
    rw [htrees', Forest.text_mem_map_appendChild fun _ => m.wellFormed.isNode_erase,
      Document.erase, Forest.text_mem_filter_erase m.wellFormed.isNode, m.name_eq hc]
    refine ⟨m.loose n s hs.1, fun e => hs.2 (m.injective ?_ hc e)⟩
    exact m.host_wellFormed.mem_ids_iff.mp (List.mem_flatMap.mpr ⟨_, hs.1, List.mem_cons_self⟩)

/-- An element is removed from both documents or from none. -/
theorem exists_remove_iff {id : NodeId} (hk : h.text? id = none) :
    (∃ d', d.remove (names.getD id d.fresh) = .ok d') ↔ ∃ h', h.remove id = .ok h' := by
  rw [Document.exists_remove_iff, Document.exists_remove_iff]
  rcases Nat.lt_or_ge id h.fresh with hid | hid
  · refine iff_of_true ?_ (m.host_wellFormed.mem_ids_iff.mpr hid)
    rw [m.name_eq hid]
    obtain ⟨o, ho⟩ := m.exists_outline? hid hk
    obtain ⟨_, _, _, ht, -⟩ := Document.outline?_eq_some_iff.mp
      ((m.outline?_eq hid).trans (congrArg _ ho))
    exact Document.mem_ids_of_tree? ht
  · refine iff_of_false ?_ (mt m.host_wellFormed.mem_ids_iff.mp (Nat.not_lt_of_le hid))
    rw [m.name_not_mem hid]
    exact m.wellFormed.fresh_not_mem

theorem isTop_iff {id : NodeId} (hid : id < h.fresh) :
    Outline.IsTop d.outlines (names.getD id 0) ↔ Outline.IsTop h.outlines id := by
  unfold Outline.IsTop
  rw [m.outlines_eq]
  constructor
  · intro htop
    obtain ⟨u, hu, hu'⟩ := List.mem_map.mp htop
    obtain ⟨o, ho, rfl⟩ := List.mem_map.mp hu
    refine List.mem_map.mpr ⟨o, ho, ?_⟩
    cases o with
    | nil => cases hu'
    | run s rest =>
        rw [Outline.rename, Outline.head?_joinText] at hu'
        cases hu'
    | element i t a c rest =>
        rw [Outline.rename, Outline.head?] at hu'
        have hi := m.lt_fresh_of_mem_outlines ho List.mem_cons_self
        rw [Outline.head?, m.injective hi hid (Option.some.inj hu')]
  · intro htop
    obtain ⟨o, ho, hid⟩ := List.mem_map.mp htop
    refine List.mem_map.mpr ⟨_, List.mem_map.mpr ⟨o, ho, rfl⟩, ?_⟩
    cases o with
    | element i t a c rest =>
        cases hid
        rfl
    | nil => cases hid
    | run => cases hid

/-- Both documents remove the element. -/
theorem remove {id : NodeId} {h' d' : Document} (hk : h.text? id = none)
    (hh : h.remove id = .ok h') (hd : d.remove (names.getD id d.fresh) = .ok d') :
    Mirrors names h' d' := by
  obtain ⟨p, hp, hcases⟩ := Document.remove_cases hh
  obtain ⟨p', hp', hcases'⟩ := Document.remove_cases hd
  have hid : id < h.fresh :=
    m.host_wellFormed.mem_ids_iff.mp (Document.mem_ids_of_tree? (Document.tree?_of_place? hp))
  have eh := Document.Extends.remove m.host_wellFormed hh
  have ed := Document.Extends.remove m.wellFormed hd
  rw [m.name_eq hid] at hd hp' hcases'
  obtain ⟨o, ho⟩ := m.exists_outline? hid hk
  have ho' := (m.outline?_eq hid).trans (congrArg _ ho)
  refine m.moved eh ed ?_ ?_
  · rcases m.host_wellFormed.outlines_remove ho hh with ⟨htop, e⟩ | ⟨htop, e⟩ <;>
      rcases m.wellFormed.outlines_remove ho' hd with ⟨htop', e'⟩ | ⟨htop', e'⟩
    · rw [e, e', m.outlines_eq]
    · exact absurd ((m.isTop_iff hid).mpr htop) htop'
    · exact absurd ((m.isTop_iff hid).mp htop') htop
    · rw [e, e', m.outlines_eq, List.map_append,
        Outline.map_rename_eraseFrom fun o ho => m.separates ho hid]
      rfl
  · intro n s hs
    have hfrom : .text n s .nil ∈ h.trees ∧ n ≠ id := by
      rcases hcases with ⟨-, rfl⟩ | ⟨-, ht, -⟩
      · refine ⟨hs, ?_⟩
        rintro rfl
        exact Document.tree?_ne_text hk s (m.host_wellFormed.tree?_of_mem_trees hs (.text s))
      · rw [ht] at hs
        rcases List.mem_append.mp hs with hs | hs
        · exact (Forest.text_mem_filter_erase m.host_wellFormed.isNode).mp hs
        · have hnode := Document.tree?_of_place? hp
          rw [← List.mem_singleton.mp hs] at hnode
          cases Document.isNode_of_tree? hnode
          exact absurd hnode (Document.tree?_ne_text hk s)
    have hn := m.host_wellFormed.mem_ids_iff.mp
      (List.mem_flatMap.mpr ⟨_, hfrom.1, List.mem_cons_self⟩)
    rcases hcases' with ⟨-, rfl⟩ | ⟨-, ht, -⟩
    · exact m.loose n s hfrom.1
    · rw [ht]
      refine List.mem_append_left _ ((Forest.text_mem_filter_erase m.wellFormed.isNode).mpr ?_)
      exact ⟨m.loose n s hfrom.1, fun e => hfrom.2 (m.injective hn hid e)⟩

/-! ### Attributes -/

theorem exists_setAttribute_iff {id : NodeId} {name value : String} :
    (∃ d', d.setAttribute (names.getD id d.fresh) name value = .ok d') ↔
      ∃ h', h.setAttribute id name value = .ok h' := by
  rw [Document.exists_setAttribute_iff, Document.exists_setAttribute_iff]
  rcases Nat.lt_or_ge id h.fresh with hid | hid
  · rw [m.name_eq hid, m.outline?_eq hid, Option.isSome_map]
  · rw [m.name_not_mem hid, m.host_wellFormed.outline?_eq_none hid,
      m.wellFormed.outline?_eq_none (Nat.le_refl _)]

/-- Both documents set the attribute. -/
theorem setAttribute {id : NodeId} {name value : String} {h' d' : Document}
    (hh : h.setAttribute id name value = .ok h')
    (hd : d.setAttribute (names.getD id d.fresh) name value = .ok d') :
    Mirrors names h' d' := by
  obtain ⟨t, a, c, htree, htrees, -⟩ := Document.setAttribute_cases hh
  obtain ⟨-, -, -, -, htrees', -⟩ := Document.setAttribute_cases hd
  have hid : id < h.fresh := m.host_wellFormed.mem_ids_iff.mp (Document.mem_ids_of_tree? htree)
  have eh := Document.Extends.setAttribute m.host_wellFormed hh
  have ed := Document.Extends.setAttribute m.wellFormed hd
  rw [m.name_eq hid] at hd
  refine m.moved eh ed ?_ ?_
  · rw [m.wellFormed.outlines_setAttribute hd, m.host_wellFormed.outlines_setAttribute hh,
      m.outlines_eq, List.map_map, List.map_map]
    exact List.map_congr_left fun o ho =>
      (Outline.rename_setAttribute (m.separates ho hid)).symm
  · intro n s hs
    rw [htrees, Forest.text_mem_map_setAttribute m.host_wellFormed.isNode] at hs
    rw [htrees', Forest.text_mem_map_setAttribute m.wellFormed.isNode]
    exact m.loose n s hs

/-! ### One edit -/

/-- An edit that is refused in both documents or in none, and keeps them mirrors if it is not. -/
theorem alike {rh rd : Except TreeError Document}
    (hiff : (∃ d', rd = .ok d') ↔ ∃ h', rh = .ok h')
    (hok : ∀ h' d', rh = .ok h' → rd = .ok d' → Mirrors names h' d') :
    (Document.refusal rd).isSome = (Document.refusal rh).isSome ∧
      Mirrors names (h.orSame rh) (d.orSame rd) := by
  cases rh with
  | ok h' =>
      obtain ⟨d', rfl⟩ := hiff.mpr ⟨h', rfl⟩
      exact ⟨rfl, hok h' d' rfl rfl⟩
  | error e =>
      cases rd with
      | ok d' =>
          obtain ⟨h', e'⟩ := hiff.mp ⟨d', rfl⟩
          cases e'
      | error e' => exact ⟨rfl, m⟩

theorem edit_appendChild (parent : NodeId) {child : NodeId}
    (hk : h.text? child = none ∨ h.parent? child = none) :
    (d.edit (.appendChild (names.getD parent d.fresh) (names.getD child d.fresh))).1.isSome =
        (h.edit (.appendChild parent child)).1.isSome ∧
      Mirrors names (h.edit (.appendChild parent child)).2
        (d.edit (.appendChild (names.getD parent d.fresh) (names.getD child d.fresh))).2 :=
  m.alike (m.exists_appendChild_iff hk) fun _ _ hh hd => m.appendChild hk hh hd

/-- A node that was just made is put below an element in both documents, or in none. -/
theorem edit_appendNew {tree tree' : Forest} (parent : NodeId) (ht : Forest.IsNode h.fresh tree)
    (made : Mirrors (names ++ [d.fresh]) (h.addTree tree) (d.addTree tree')) :
    ((d.addTree tree').edit (.appendChild (names.getD parent d.fresh) d.fresh)).1.isSome =
        ((h.addTree tree).edit (.appendChild parent h.fresh)).1.isSome ∧
      Mirrors (names ++ [d.fresh]) ((h.addTree tree).edit (.appendChild parent h.fresh)).2
        ((d.addTree tree').edit (.appendChild (names.getD parent d.fresh) d.fresh)).2 := by
  have hparent : (h.addTree tree).parent? h.fresh = none := by
    have := made.host_wellFormed.place?_of_mem_trees
      (List.mem_append_right _ (List.mem_singleton.mpr rfl)) ht
    rw [Document.parent?, Document.above, this]
    rfl
  rcases Nat.lt_or_ge parent h.fresh with hp | hp
  · have := made.edit_appendChild parent (.inr hparent)
    rwa [made.name_eq (Nat.lt_succ_of_lt hp), m.getD_of_lt hp, ← m.name_eq hp d.fresh,
      made.name_eq (Nat.lt_succ_self _), m.getD_fresh] at this
  · -- the parent is not known: it is the new node itself or no node at all
    rw [m.name_not_mem hp]
    refine made.alike (iff_of_false ?_ ?_) fun h' d' _ hd => ?_
    · rintro ⟨d', hd⟩
      obtain ⟨_, _, _, _, -, -, hne, -⟩ := Document.appendChild_cases hd
      exact hne rfl
    · rintro ⟨h', hh⟩
      obtain ⟨_, _, _, _, hin, -, hne, -⟩ := Document.appendChild_cases hh
      have := made.host_wellFormed.mem_ids_iff.mp (Document.mem_ids_of_tree? hin)
      exact hne (Nat.le_antisymm (Nat.le_of_lt_succ this) hp)
    · obtain ⟨_, _, _, _, -, -, hne, -⟩ := Document.appendChild_cases hd
      exact absurd rfl hne

/-- **One edit of the host**: it is refused in both documents or in none, and they stay mirrors. -/
theorem edit (e : HostEdit) (hk : e.KeepsTexts h) :
    (d.edit (e.rename fun n => names.getD n d.fresh)).1.isSome = (h.edit e).1.isSome ∧
      Mirrors (if e.makes then names ++ [d.fresh] else names) (h.edit e).2
        (d.edit (e.rename fun n => names.getD n d.fresh)).2 := by
  cases e with
  | createElement tag => exact ⟨rfl, m.createElement tag⟩
  | createText content => exact ⟨rfl, m.createText content⟩
  | appendElement parent tag =>
      rw [HostEdit.rename, Document.edit_appendElement, Document.edit_appendElement]
      exact m.edit_appendNew parent (.element _ _ _) (m.createElement tag)
  | appendText parent content =>
      rw [HostEdit.rename, Document.edit_appendText, Document.edit_appendText]
      exact m.edit_appendNew parent (.text _) (m.createText content)
  | appendChild parent child => exact m.edit_appendChild parent hk
  | remove id => exact m.alike (m.exists_remove_iff hk) fun _ _ hh hd => m.remove hk hh hd
  | setAttribute id name value =>
      exact m.alike m.exists_setAttribute_iff fun _ _ hh hd => m.setAttribute hh hd
  | takeLog =>
      have eh : Document.Extends h h.takeLog.2 [] :=
        (Document.Extends.refl m.host_wellFormed).of_trees rfl rfl
      have ed : Document.Extends d d.takeLog.2 [] :=
        (Document.Extends.refl m.wellFormed).of_trees rfl rfl
      exact ⟨rfl, m.moved eh ed m.outlines_eq m.loose⟩

end Mirrors

/-! ### Whole runs -/

namespace Forest

/-- Numbers that stay as they are keep the outline of a forest. -/
theorem rename_outline {ν : NodeId → NodeId} {f : Forest} (h : ∀ i ∈ f.outline.ids, ν i = i) :
    f.outline.rename ν = f.outline := by
  induction f with
  | nil => rfl
  | text i s rest ih =>
      rw [outline, Outline.rename_joinText, ih (by simpa [outline] using h)]
  | mask i m rest ih =>
      rw [outline, Outline.rename_joinText, ih (by simpa [outline] using h)]
  | element i t a c rest ihc ih =>
      simp only [outline, Outline.ids, List.mem_cons, List.mem_append] at h
      rw [outline, Outline.rename, h i (.inl rfl), ihc fun j hj => h j (.inr (.inl hj)),
        ih fun j hj => h j (.inr (.inr hj))]

end Forest

/-- A document without masks mirrors itself. -/
theorem Mirrors.refl {d : Document} (wf : d.WellFormed) (hfree : d.MaskFree) :
    Mirrors (List.range d.fresh) d d := by
  have hname {n : NodeId} (hn : n < d.fresh) : (List.range d.fresh).getD n 0 = n := by
    rw [List.getD_eq_getElem?_getD, List.getElem?_range hn, Option.getD_some]
  have hlt {t : Forest} {n : NodeId} (ht : t ∈ d.trees) (hn : n ∈ t.ids) : n < d.fresh :=
    wf.mem_ids_iff.mp (List.mem_flatMap.mpr ⟨t, ht, hn⟩)
  refine ⟨wf, hfree, wf, List.length_range, List.nodup_range, fun x => List.mem_range.mp,
    ?_, ?_, ?_⟩
  · obtain ⟨t, ht⟩ := wf.root_mem
    exact hname (wf.mem_ids_iff.mp (Document.mem_ids_of_mem_nodes ht))
  · symm
    refine (List.map_congr_left fun o ho => ?_).trans (List.map_id _)
    obtain ⟨t, ht, hto⟩ := List.mem_filterMap.mp ho
    obtain ⟨i, hi⟩ := wf.isNode t ht
    rw [(Forest.elementOutline?_eq_some hi hto).1]
    refine Forest.rename_outline fun j hj => hname (hlt ht ?_)
    obtain ⟨tag, htag⟩ := Forest.mem_ids_outline.mp hj
    exact Forest.mem_ids_of_mem_nodes htag
  · intro n s hs
    rwa [hname (hlt hs List.mem_cons_self)]

/-- The document reads as the one that it mirrors. -/
theorem Mirrors.unmasked_root {names : List NodeId} {h d : Document} (m : Mirrors names h d) :
    d.unmasked Document.root = h.unmasked Document.root := by
  obtain ⟨t, a, c, hroot⟩ := m.host_wellFormed.exists_tree?_root
  have ho := Document.outline?_eq_some_iff.mpr ⟨t, a, c, hroot, rfl⟩
  have ho' := (m.outline?_eq (m.host_wellFormed.mem_ids_iff.mp
    (Document.mem_ids_of_tree? hroot))).trans (congrArg _ ho)
  rw [m.root_eq] at ho'
  rw [Document.unmasked_eq_content ho, Document.unmasked_eq_content ho', Outline.content_rename]

end TextMasking
