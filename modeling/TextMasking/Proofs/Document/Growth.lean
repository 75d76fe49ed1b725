import TextMasking.Proofs.Document.History
import TextMasking.Proofs.Document.Spots
import TextMasking.Session.LineStream

/-! # New nodes below the root

A host may make a node and put it at the end of the children of an element below the root at once.
This cannot fail, and what comes of the document is known (`Document.Body.grow`): what the root held
has the new node, which is logged, and all else is as it was. -/

namespace TextMasking

namespace Forest

variable {f g tree : Forest} {parent : NodeId} {t : String}

/-- Siblings before the one that holds the element stay as they are. -/
theorem appendChild_append (tree : Forest) (hp : parent ∉ f.ids) (g : Forest) :
    appendChild parent tree (f ++ g) = f ++ appendChild parent tree g := by
  induction f with
  | nil => rfl
  | text i s rest ih => exact congrArg (text i s) (ih fun h => hp (List.mem_cons_of_mem _ h))
  | mask i m rest ih => exact congrArg (mask i m) (ih fun h => hp (List.mem_cons_of_mem _ h))
  | element i t a c rest _ ih =>
      simp only [ids, List.mem_cons, List.mem_append, not_or] at hp
      rw [element_append, appendChild, if_neg (Ne.symm hp.1), appendChild_of_not_mem hp.2.1,
        ih hp.2.2, element_append]

end Forest

namespace Document

open Forest (IsNode)

variable {d : Document} {f tail tree : Forest} {parent : NodeId} {t : String}

/-- The document is well formed and its root holds `f`. -/
structure Body (d : Document) (f : Forest) : Prop where
  wellFormed : d.WellFormed
  mem_trees : .element root "body" [] f .nil ∈ d.trees

theorem Body.tree?_root (h : d.Body f) :
    d.tree? root = some (.element root "body" [] f .nil) :=
  h.wellFormed.tree?_of_mem_trees h.mem_trees (.element _ _ _)

theorem Body.shown (h : d.Body f) : d.shown root = f.shown := by
  rw [Document.shown, h.tree?_root, Option.getD_some, Forest.shown, Forest.shown,
    String.append_empty]

theorem Body.nodup (h : d.Body f) : (root :: f.ids).Nodup := by
  have hn := h.wellFormed.tree_nodup h.mem_trees
  rwa [Forest.ids, Forest.ids, List.append_nil] at hn

/-- A node that the root holds is looked up there. -/
theorem Body.tree?_of_mem (h : d.Body f) {i : NodeId} (hi : i ∈ f.ids) :
    d.tree? i = f.find? i := by
  have hne : root ≠ i := fun e => (List.nodup_cons.mp h.nodup).1 (e ▸ hi)
  have hmem : i ∈ (Forest.element root "body" [] f .nil).ids :=
    List.mem_cons_of_mem _ (List.mem_append_left _ hi)
  rw [h.wellFormed.tree?_of_mem h.mem_trees hmem, Forest.find?, if_neg hne, Forest.find?,
    Option.or_none]

theorem Body.not_mem_of_tail (h : d.Body (f ++ tail)) {i : NodeId} (hi : i ∈ tail.ids) :
    i ∉ f.ids := by
  have hn := (List.nodup_cons.mp h.nodup).2
  rw [Forest.ids_append] at hn
  exact fun hf => (List.nodup_append.mp hn).2.2 i hf i hi rfl

/-- A node that the root holds at the end is looked up there. -/
theorem Body.tree?_tail (h : d.Body (f ++ tail)) {i : NodeId} (hi : i ∈ tail.ids) :
    d.tree? i = tail.find? i := by
  rw [h.tree?_of_mem (Forest.ids_append f tail ▸ List.mem_append_right _ hi), Forest.find?_append,
    Forest.find?_eq_none_iff.mpr (h.not_mem_of_tail hi), Option.none_or]

theorem Body.mem_spots (h : d.Body f) {x : NodeId × Spot}
    (hx : x ∈ f.spotsFrom [⟨root, "body", []⟩]) : x ∈ d.spots :=
  List.mem_flatMap.mpr
    ⟨_, h.mem_trees, List.mem_cons_of_mem _ (List.mem_append_left _ hx)⟩

theorem Body.takeLog (h : d.Body f) : d.takeLog.2.Body f where
  wellFormed := ⟨h.wellFormed.isNode, h.wellFormed.ids_perm, h.wellFormed.root_mem⟩
  mem_trees := h.mem_trees

theorem body_empty : empty.Body .nil where
  wellFormed := wellFormed_ofPlainText ""
  mem_trees := List.mem_singleton_self _

/-- A new node of its own, which is an element or a text. -/
structure IsNew (d : Document) (tree : Forest) : Prop where
  isNode : IsNode d.fresh tree
  shapes_eq : ∃ k, tree.shapes = [(d.fresh, k)]

theorem IsNew.ids_eq (h : d.IsNew tree) : tree.ids = [d.fresh] := by
  obtain ⟨k, hk⟩ := h.shapes_eq
  rw [← Forest.map_fst_shapes, hk]
  rfl

/-- The document with a new tree, whose node is the next one, below an element below the root. -/
def grow (d : Document) (parent : NodeId) (tree : Forest) : Document :=
  ⟨d.trees.map (Forest.appendChild parent tree), d.fresh + 1, d.log ++ [.added d.fresh]⟩

/-- These trees before the new node is logged. -/
def moved (d : Document) (parent : NodeId) (tree : Forest) : Document :=
  ⟨d.trees.map (Forest.appendChild parent tree), d.fresh + 1, d.log⟩

theorem erase_addTree (wf : d.WellFormed) (hnew : d.IsNew tree) :
    ((d.addTree tree).erase d.fresh).trees = d.trees := by
  have hkept : ∀ u ∈ d.trees, u.erase d.fresh = u := fun u hu =>
    Forest.erase_of_not_mem fun h => wf.fresh_not_mem (List.mem_flatMap.mpr ⟨u, hu, h⟩)
  have hne : ∀ u ∈ d.trees, (u != .nil) = true := by
    intro u hu
    obtain ⟨i, hi⟩ := wf.isNode u hu
    rw [bne_iff_ne]
    rintro rfl
    cases hi
  simp only [erase, addTree, List.map_append, List.map_cons, List.map_nil,
    hnew.isNode.erase_self, List.filter_append, List.map_congr_left hkept, List.map_id']
  rw [List.filter_eq_self.mpr hne]
  simp

/-- **A node that is put below the root at once** comes to stand there. -/
theorem Body.appendChild_addTree (h : d.Body f) (hnew : d.IsNew tree) {f' : Forest}
    (hp : (parent, .element t) ∈ (Forest.element root "body" [] f .nil).nodes)
    (hf' : Forest.appendChild parent tree (.element root "body" [] f .nil) =
      .element root "body" [] f' .nil) :
    (d.addTree tree).appendChild parent d.fresh = .ok (d.grow parent tree) ∧
      (d.grow parent tree).Body f' := by
  have wf := h.wellFormed
  obtain ⟨k, hk⟩ := hnew.shapes_eq
  have hmade := (Extends.addTree wf hnew.isNode hk).wellFormed wf
  have hmem : tree ∈ (d.addTree tree).trees := List.mem_append_right _ (List.mem_singleton_self _)
  have hparent : parent < d.fresh := by
    rw [← wf.mem_ids_iff]
    exact List.mem_flatMap.mpr ⟨_, h.mem_trees, Forest.mem_ids_of_mem_nodes hp⟩
  obtain ⟨a, c, hfind⟩ := hmade.exists_tree?_element (List.mem_flatMap.mpr
    ⟨_, List.mem_append_left _ h.mem_trees, hp⟩)
  have htree := hmade.tree?_of_mem_trees hmem hnew.isNode
  have hbelow : d.fresh ∉ (d.addTree tree).above parent := by
    rw [hmade.mem_above_iff]
    rintro ⟨t', a', c', e, hc⟩
    have hids := hnew.ids_eq
    rw [Option.some.inj (htree.symm.trans e), Forest.ids, Forest.ids, List.append_nil] at hids
    rw [(List.cons.inj hids).2] at hc
    cases hc
  have hremoval : (d.addTree tree).removal d.fresh = [] := by
    rw [removal, parent?, above, hmade.place?_of_mem_trees hmem hnew.isNode]
    rfl
  have hcond : (decide (parent = d.fresh) ||
      ((d.addTree tree).above parent).contains d.fresh) = false := by
    rw [Bool.or_eq_false_iff, decide_eq_false_iff_not, ← Bool.not_eq_true, List.contains_iff_mem]
    exact ⟨Nat.ne_of_lt hparent, hbelow⟩
  have hcases : (d.addTree tree).appendChild parent d.fresh =
      .ok (if (d.moved parent tree).attached d.fresh then d.grow parent tree
        else d.moved parent tree) := by
    simp only [Document.appendChild, hfind, htree, hcond, hremoval, note, List.append_nil,
      erase_addTree wf hnew]
    rfl
  -- whether or not the move is logged, the trees are well formed, so the new node is attached
  have hbody : (d.grow parent tree).Body f' ∧ (d.moved parent tree).attached d.fresh = true := by
    have hext := Extends.appendChild hmade hcases
    have hmoved : (d.moved parent tree).WellFormed := by
      refine (hext.of_trees ?_ ?_).wellFormed hmade <;> split_ifs <;> rfl
    have hmem' : .element root "body" [] f' .nil ∈ (d.moved parent tree).trees :=
      hf' ▸ List.mem_map_of_mem h.mem_trees
    have hnodes := Forest.nodes_appendChild_perm tree (wf.tree_nodup h.mem_trees) hp
    have hfresh : d.fresh ∈ (Forest.element root "body" [] f' .nil).ids := by
      rw [← hf', ← Forest.map_fst_nodes, (hnodes.map Prod.fst).mem_iff, List.map_append,
        Forest.map_fst_nodes, Forest.map_fst_nodes, hnew.ids_eq]
      exact List.mem_append_right _ (List.mem_singleton_self _)
    have hroot := hmoved.tree?_of_mem_trees hmem' (.element _ _ _)
    refine ⟨⟨?_, hmem'⟩, (hmoved.attached_iff hroot).mpr ?_⟩
    · exact ⟨hmoved.isNode, hmoved.ids_perm, hmoved.root_mem⟩
    · rwa [Forest.ids, Forest.ids, List.append_nil, List.mem_cons] at hfresh
  rw [hcases, if_pos hbody.2]
  exact ⟨rfl, hbody.1⟩

/-- A node at the end of what the root holds. -/
theorem Body.appendChild_root (h : d.Body f) (hnew : d.IsNew tree) :
    (d.addTree tree).appendChild root d.fresh = .ok (d.grow root tree) ∧
      (d.grow root tree).Body (f ++ tree) :=
  h.appendChild_addTree (t := "body") hnew List.mem_cons_self (if_pos rfl)

/-- A node below an element of what the root holds at the end. -/
theorem Body.appendChild_tail (h : d.Body (f ++ tail)) (hnew : d.IsNew tree)
    (hp : (parent, .element t) ∈ tail.nodes) :
    (d.addTree tree).appendChild parent d.fresh = .ok (d.grow parent tree) ∧
      (d.grow parent tree).Body (f ++ Forest.appendChild parent tree tail) := by
  have hmem := Forest.mem_ids_of_mem_nodes hp
  refine h.appendChild_addTree (t := t) hnew ?_ ?_
  · rw [Forest.nodes, Forest.nodes_append]
    exact List.mem_cons_of_mem _ (List.mem_append_left _ (List.mem_append_right _ hp))
  · rw [Forest.appendChild, if_neg, Forest.appendChild,
      Forest.appendChild_append tree (h.not_mem_of_tail hmem)]
    rintro rfl
    refine (List.nodup_cons.mp h.nodup).1 ?_
    rw [Forest.ids_append]
    exact List.mem_append_right _ hmem

/-! ### Elements and texts -/

theorem isNew_element (d : Document) (tag : String) :
    d.IsNew (.element d.fresh tag [] .nil .nil) :=
  ⟨.element _ _ _, _, rfl⟩

theorem isNew_text (d : Document) (content : String) : d.IsNew (.text d.fresh content .nil) :=
  ⟨.text _, _, rfl⟩

theorem addElement_of_appendChild {tag : String} {d' : Document} (htag : lowerAscii tag = tag)
    (h : (d.addTree (.element d.fresh tag [] .nil .nil)).appendChild parent d.fresh = .ok d') :
    d.addElement parent tag = .ok (d.fresh, d') := by
  rw [addElement, appendElement, createElement, htag]
  dsimp only
  rw [h]

/-- An element is added at the end of what the root holds. -/
theorem Body.addElement_root (h : d.Body f) (tag : String) (htag : lowerAscii tag = tag) :
    let d' := d.grow root (.element d.fresh tag [] .nil .nil)
    d.addElement root tag = .ok (d.fresh, d') ∧ d'.Body (f ++ .element d.fresh tag [] .nil .nil) :=
  (h.appendChild_root (d.isNew_element tag)).imp_left (addElement_of_appendChild htag)

/-- An element is added below one that the root holds at the end. -/
theorem Body.addElement_tail (h : d.Body (f ++ tail)) (hp : (parent, .element t) ∈ tail.nodes)
    (tag : String) (htag : lowerAscii tag = tag) :
    let tree := Forest.element d.fresh tag [] .nil .nil
    d.addElement parent tag = .ok (d.fresh, d.grow parent tree) ∧
      (d.grow parent tree).Body (f ++ Forest.appendChild parent tree tail) :=
  (h.appendChild_tail (d.isNew_element tag) hp).imp_left (addElement_of_appendChild htag)

/-- A text is added below an element that the root holds at the end. -/
theorem Body.addText_tail (h : d.Body (f ++ tail)) (hp : (parent, .element t) ∈ tail.nodes)
    (content : String) :
    let tree := Forest.text d.fresh content .nil
    d.addText parent content = .ok (d.grow parent tree) ∧
      (d.grow parent tree).Body (f ++ Forest.appendChild parent tree tail) := by
  refine (h.appendChild_tail (d.isNew_text content) hp).imp_left fun hok => ?_
  rw [addText, appendText, createText]
  dsimp only
  rw [hok]

end Document

end TextMasking
