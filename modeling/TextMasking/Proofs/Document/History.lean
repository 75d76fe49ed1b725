import TextMasking.Document.PlainText
import TextMasking.Proofs.Document.Edits

/-! # Documents that can be reached

The host edits a document that it made from a plain text (`Document.edit`, `Document.editAll`);
texts are taken apart and masks turned back in between (`Document.changeAll`).  Every document that
is reached so is well formed (`wellFormed_changeAll`), and the host alone makes no masks
(`maskFree_editAll`). -/

namespace TextMasking

/-- An edit of the host. -/
inductive HostEdit where
  | createElement (tag : String)
  | createText (content : String)
  | appendElement (parent : NodeId) (tag : String)
  | appendText (parent : NodeId) (content : String)
  | appendChild (parent child : NodeId)
  | remove (id : NodeId)
  | setAttribute (id : NodeId) (name value : String)
  | takeLog
  deriving DecidableEq, Repr

/-- A change of a document: by the host, or of a text or a mask. -/
inductive TreeChange where
  | host (edit : HostEdit)
  | replaceText (id : NodeId) (fragments : List Fragment)
  | unmask (id : NodeId)
  deriving DecidableEq, Repr

namespace Document

/-! ### Edits and changes -/

/-- The error of a change that was refused. -/
def refusal {α : Type} : Except TreeError α → Option TreeError
  | .ok _ => none
  | .error e => some e

/-- A change that was refused leaves the document as it was. -/
def orSame (d : Document) : Except TreeError Document → Document
  | .ok d' => d'
  | .error _ => d

/-- The document after an edit, with the error if the edit was refused. -/
def edit (d : Document) : HostEdit → Option TreeError × Document
  | .createElement tag => (none, (d.createElement tag).2)
  | .createText content => (none, (d.createText content).2)
  | .appendElement parent tag =>
    (refusal (d.appendElement parent tag).1, (d.appendElement parent tag).2)
  | .appendText parent content =>
    (refusal (d.appendText parent content).1, (d.appendText parent content).2)
  | .appendChild parent child =>
    (refusal (d.appendChild parent child), d.orSame (d.appendChild parent child))
  | .remove id => (refusal (d.remove id), d.orSame (d.remove id))
  | .setAttribute id name value =>
    (refusal (d.setAttribute id name value), d.orSame (d.setAttribute id name value))
  | .takeLog => (none, d.takeLog.2)

/-- The document after edits in order. -/
def editAll (d : Document) (edits : List HostEdit) : Document :=
  edits.foldl (fun d e => (d.edit e).2) d

/-- The document after a change, refused or not. -/
def change (d : Document) : TreeChange → Document
  | .host e => (d.edit e).2
  | .replaceText id fragments => d.orSame ((d.replaceText id fragments).map (·.2))
  | .unmask id => d.orSame ((d.unmask id).map (·.2))

/-- The document after changes in order. -/
def changeAll (d : Document) (changes : List TreeChange) : Document :=
  changes.foldl change d

/-- A new element is made first and put below its parent then. -/
theorem edit_appendElement (d : Document) (parent : NodeId) (tag : String) :
    d.edit (.appendElement parent tag) =
      (d.createElement tag).2.edit (.appendChild parent d.fresh) := by
  simp only [edit, appendElement, createElement]
  cases (d.addTree (.element d.fresh (lowerAscii tag) [] .nil .nil)).appendChild parent d.fresh <;>
    rfl

/-- A new text is made first and put below its parent then. -/
theorem edit_appendText (d : Document) (parent : NodeId) (content : String) :
    d.edit (.appendText parent content) =
      (d.createText content).2.edit (.appendChild parent d.fresh) := by
  simp only [edit, appendText, createText]
  cases (d.addTree (.text d.fresh content .nil)).appendChild parent d.fresh <;> rfl

/-! ### Nodes of documents that are reached -/

/-- No node is a mask. -/
def MaskFree (d : Document) : Prop :=
  ∀ id m, (id, .mask m) ∉ d.nodes

/-- A mask below a node is a node of the document. -/
theorem exists_mask_of_mem_maskIds {d : Document} {x id : NodeId} (h : id ∈ d.maskIds x) :
    ∃ m, (id, .mask m) ∈ d.nodes := by
  rw [maskIds] at h
  cases ht : d.tree? x with
  | none => simp [ht, Forest.maskIds] at h
  | some n =>
      rw [ht, Option.getD_some, Forest.mem_maskIds_iff] at h
      obtain ⟨m, hm⟩ := h
      exact ⟨m, nodes_subset_of_tree? ht hm⟩

theorem MaskFree.maskIds_eq_nil {d : Document} (h : d.MaskFree) (id : NodeId) :
    d.maskIds id = [] := by
  rw [List.eq_nil_iff_forall_not_mem]
  intro i hi
  obtain ⟨m, hm⟩ := exists_mask_of_mem_maskIds hi
  exact h i m hm

/-- The host may add elements and texts. -/
theorem edit_extends {d : Document} (wf : d.WellFormed) (e : HostEdit) :
    ∃ new, Extends d (d.edit e).2 new ∧ ∀ id m, (id, .mask m) ∉ new := by
  have appended {d : Document} (wf : d.WellFormed) (parent child : NodeId) :
      Extends d (d.edit (.appendChild parent child)).2 [] := by
    simp only [edit]
    cases h : d.appendChild parent child with
    | ok d' => exact .appendChild wf h
    | error e => exact .refl wf
  cases e with
  | createElement tag => exact ⟨_, .createElement wf tag, by simp⟩
  | createText content => exact ⟨_, .createText wf content, by simp⟩
  | appendElement parent tag =>
      have made := Extends.createElement wf tag
      rw [edit_appendElement]
      refine ⟨_, made.trans (appended (made.wellFormed wf) parent d.fresh), by simp⟩
  | appendText parent content =>
      have made := Extends.createText wf content
      rw [edit_appendText]
      refine ⟨_, made.trans (appended (made.wellFormed wf) parent d.fresh), by simp⟩
  | appendChild parent child => exact ⟨_, appended wf parent child, by simp⟩
  | remove id =>
      refine ⟨[], ?_, by simp⟩
      simp only [edit]
      cases h : d.remove id with
      | ok d' => exact .remove wf h
      | error e => exact .refl wf
  | setAttribute id name value =>
      refine ⟨[], ?_, by simp⟩
      simp only [edit]
      cases h : d.setAttribute id name value with
      | ok d' => exact .setAttribute wf h
      | error e => exact .refl wf
  | takeLog => exact ⟨[], (Extends.refl wf).of_trees rfl rfl, by simp⟩

theorem wellFormed_edit {d : Document} (wf : d.WellFormed) (e : HostEdit) :
    (d.edit e).2.WellFormed := by
  obtain ⟨new, he, -⟩ := edit_extends wf e
  exact he.wellFormed wf

theorem wellFormed_editAll {d : Document} (wf : d.WellFormed) (edits : List HostEdit) :
    (d.editAll edits).WellFormed := by
  induction edits generalizing d with
  | nil => exact wf
  | cons e edits ih => exact ih (wellFormed_edit wf e)

/-- A mask after an edit of the host was there before. -/
theorem mask_mem_of_edit {d : Document} (wf : d.WellFormed) {e : HostEdit} {id : NodeId} {m : Mask}
    (h : (id, .mask m) ∈ (d.edit e).2.nodes) : (id, .mask m) ∈ d.nodes := by
  obtain ⟨new, he, hnew⟩ := edit_extends wf e
  exact (he.mask_mem_iff.mp h).resolve_right (hnew id m)

/-- The host makes no masks. -/
theorem maskFree_editAll {d : Document} (wf : d.WellFormed) (hd : d.MaskFree)
    (edits : List HostEdit) : (d.editAll edits).MaskFree := by
  induction edits generalizing d with
  | nil => exact hd
  | cons e edits ih =>
      exact ih (wellFormed_edit wf e) fun id m h => hd id m (mask_mem_of_edit wf h)

theorem wellFormed_change {d : Document} (wf : d.WellFormed) (c : TreeChange) :
    (d.change c).WellFormed := by
  cases c with
  | host e => exact wellFormed_edit wf e
  | replaceText id fragments =>
      rw [change]
      cases h : d.replaceText id fragments with
      | ok r => exact (Extends.replaceText wf h).wellFormed wf
      | error e => exact wf
  | unmask id =>
      rw [change]
      cases h : d.unmask id with
      | ok r =>
          obtain ⟨p, -, -, hp, -⟩ := unmask_cases h
          exact (Extends.unmask wf hp h).wellFormed wf
      | error e => exact wf

/-- Every document that is reached from a well-formed one is well formed. -/
theorem wellFormed_changeAll {d : Document} (wf : d.WellFormed) (changes : List TreeChange) :
    (d.changeAll changes).WellFormed := by
  induction changes generalizing d with
  | nil => exact wf
  | cons c changes ih => exact ih (wellFormed_change wf c)

end Document

/-! ### Plain texts -/

namespace Block

/-- The nodes of blocks are numbered in document order. -/
theorem ids_forestOf (next : NodeId) (blocks : List Block) :
    ∃ n, (forestOf next blocks).2 = next + n ∧
      (forestOf next blocks).1.ids = List.range' next n := by
  induction blocks generalizing next with
  | nil => exact ⟨0, rfl, rfl⟩
  | cons b rest ih =>
      obtain ⟨k, hk, hids⟩ : ∃ k, (b.toForest next).2 = next + k ∧
          (b.toForest next).1.ids = List.range' next k := by
        cases b with
        | paragraph s => exact ⟨2, rfl, rfl⟩
        | blank s => exact ⟨1, rfl, rfl⟩
        | code s => exact ⟨3, rfl, rfl⟩
      obtain ⟨n, hn, hrest⟩ := ih (next + k)
      refine ⟨k + n, ?_, ?_⟩
      · simp only [forestOf, hk, hn, Nat.add_assoc]
      · simp only [forestOf, hk, Forest.ids_append, hids, hrest]
        rw [List.range'_append_1]

theorem maskIds_forestOf (next : NodeId) (blocks : List Block) :
    (forestOf next blocks).1.maskIds = [] := by
  induction blocks generalizing next with
  | nil => rfl
  | cons b rest ih =>
      simp only [forestOf, Forest.maskIds_append, ih, List.append_nil]
      cases b <;> rfl

end Block

namespace Document

/-- The nodes of a plain text are numbered in document order. -/
theorem ids_ofPlainText (s : String) :
    (ofPlainText s).ids = List.range (ofPlainText s).fresh := by
  obtain ⟨n, hn, hids⟩ := Block.ids_forestOf (root + 1) (Block.ofText s)
  have hids : (ofPlainText s).ids = 0 :: List.range' 1 n := by
    have : 0 :: (Block.forestOf (root + 1) (Block.ofText s)).1.ids = 0 :: List.range' 1 n := by
      rw [hids, root]
    rw [← this]
    simp [ofPlainText, ids, Forest.ids, root]
  have hfresh : (ofPlainText s).fresh = n + 1 := by
    rw [Nat.add_comm]
    exact hn
  rw [hids, hfresh, List.range_eq_range', List.range'_succ]

theorem wellFormed_ofPlainText (s : String) : (ofPlainText s).WellFormed := by
  refine ⟨?_, ?_, ?_⟩
  · intro t ht
    rw [List.mem_singleton.mp ht]
    exact ⟨root, .element _ _ _⟩
  · rw [ids_ofPlainText]
  · exact ⟨"body", by simp [ofPlainText, nodes, Forest.nodes]⟩

theorem maskFree_ofPlainText (s : String) : (ofPlainText s).MaskFree := by
  intro id m h
  have h' : id ∈ (ofPlainText s).trees.flatMap Forest.maskIds := by
    obtain ⟨t, ht, hid⟩ := List.mem_flatMap.mp h
    exact List.mem_flatMap.mpr ⟨t, ht, Forest.mem_maskIds_iff.mpr ⟨m, hid⟩⟩
  simp [ofPlainText, Forest.maskIds, Block.maskIds_forestOf] at h'

end Document

end TextMasking
