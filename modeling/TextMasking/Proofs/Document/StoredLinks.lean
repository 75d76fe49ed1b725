import TextMasking.Proofs.Document.Refusals

/-! # The stored links form a forest

A table stores every link twice, with the node above and with the node below, and nothing in its
type keeps the two in step.  The steps of a change set them one at a time: some splice a list of
children, some write over one entry of it after another node was taken out.

The table of a plain text is made by such steps too (`NodeTable.ofPlainText`).  Whatever steps of
changes follow, the links agree and never lead in a circle (`NodeTable.linked_of_changes`).  So the
walks that follow nothing but the stored links come to an end, and the one downwards
(`NodeTable.visit`) never comes to a number without a node. -/

namespace TextMasking

open Relation (TransGen ReflTransGen)

namespace NodeContent

/-- Whether a node that is this keeps what is below it from being read. -/
def excludesBelow : NodeContent → Bool
  | .text _ => false
  | .mask _ => true
  | .element t a => excludes t a

end NodeContent

namespace NodeTable

/-! ### Looking at stored links -/

/-- The node above a node. -/
def parent? (t : NodeTable) (id : NodeId) : Option NodeId :=
  t.nodes[id]?.bind (·.parent)

/-- The nodes right below a node. -/
def children (t : NodeTable) (id : NodeId) : List NodeId :=
  (t.nodes[id]?.map (·.children)).getD []

/-- The second node is stored as the parent of the first. -/
def ChildOf (t : NodeTable) (c p : NodeId) : Prop := t.parent? c = some p

/-- Whether a node keeps what is below it from being read; an unknown node does. -/
def excludesBelow (t : NodeTable) (id : NodeId) : Bool :=
  (t.nodes[id]?.map (·.content.excludesBelow)).getD true

/-- Visits the nodes on a stack, and puts the children of each one on the stack. After `n` nodes the
walk is given up, and also where a node has no entry. -/
def visit (t : NodeTable) : Nat → List NodeId → Option (List NodeId)
  | _, [] => some []
  | 0, _ :: _ => none
  | n + 1, id :: stack =>
    t.nodes[id]?.bind fun e => (t.visit n (e.children ++ stack)).map (id :: ·)

/-! Each of these walks is given up after as many nodes as the table has. -/

/-- Whether the node `x` is strictly above a node. -/
def isAncestor (t : NodeTable) (x id : NodeId) : Option Bool :=
  t.climb (· == x) t.nodes.length (t.parent? id)

/-- Whether a node is the root or below it. -/
def isAttached (t : NodeTable) (id : NodeId) : Option Bool :=
  t.climb (· == Document.root) t.nodes.length (some id)

/-- Whether a node is not to be read. -/
def isExcluded (t : NodeTable) (id : NodeId) : Option Bool :=
  t.climb t.excludesBelow t.nodes.length (some id)

/-- A node and all that is below it; an unknown node has nothing. -/
def descendants (t : NodeTable) (id : NodeId) : Option (List NodeId) :=
  if id < t.nodes.length then t.visit t.nodes.length [id] else some []

/-- What the stored links promise to whoever follows them. -/
structure Linked (t : NodeTable) : Prop where
  /-- A node is among the children of another if and only if that one is its parent. -/
  mem_children : ∀ p c, c ∈ t.children p ↔ t.parent? c = some p
  children_nodup : ∀ p, (t.children p).Nodup
  /-- Only elements have children. -/
  parent_element : ∀ p c, t.parent? c = some p →
    ∃ e, t.nodes[p]? = some e ∧ e.content.isElement = true
  /-- Following parents never comes back to a node. -/
  acyclic : ∀ id, ¬TransGen t.ChildOf id id
  /-- Every walk upwards ends, with the answer that the links give. -/
  isAncestor_ends : ∀ x id, ∃ b, t.isAncestor x id = some b ∧ (b = true ↔ TransGen t.ChildOf id x)
  isAttached_ends : ∀ id, ∃ b, t.isAttached id = some b ∧
    (b = true ↔ ReflTransGen t.ChildOf id Document.root)
  isExcluded_ends : ∀ id, ∃ b, t.isExcluded id = some b ∧
    (b = true ↔ ∃ x, ReflTransGen t.ChildOf id x ∧ t.excludesBelow x = true)
  /-- So does every walk downwards; it lists each node once. -/
  descendants_ends : ∀ id, ∃ l, t.descendants id = some l ∧ l.Nodup ∧
    ∀ x, x ∈ l ↔ x < t.nodes.length ∧ ReflTransGen t.ChildOf x id
  /-- A node is attached if and only if it is listed with what is below the root. -/
  isAttached_iff : ∀ id, t.isAttached id = some true ↔
    ∃ l, t.descendants Document.root = some l ∧ id ∈ l

/-! ### The table of a plain text -/

/-- A table that holds an empty root. -/
def empty : NodeTable := ⟨[⟨.element "body" [], none, []⟩], []⟩

/-- A new node at the end of the children of an element. Nothing is checked and nothing is
logged. -/
def push (parent : NodeId) (content : NodeContent) : Steps NodeId := do
  let id ← createIn parent content
  change parent fun e => { e with children := e.children ++ [id] }
  return id

/-- The nodes of a block, at the end of the children of the root. -/
def pushBlock : Block → Steps Unit
  | .paragraph s => do
    let p ← push Document.root (.element "p" [])
    let _ ← push p (.text s)
  | .blank s => do
    let _ ← push Document.root (.text s)
  | .code s => do
    let pre ← push Document.root (.element "pre" [])
    let code ← push pre (.element "code" [])
    let _ ← push code (.text s)

def pushBlocks : List Block → Steps Unit
  | [] => return
  | b :: blocks => do
    pushBlock b
    pushBlocks blocks

/-- The table of a plain text. -/
def ofPlainText (s : String) : NodeTable :=
  (exec (pushBlocks (Block.ofText s)) empty).2

variable {kids : List NodeId} {rest : List NodeEntry} {content : NodeContent} {n : NodeId}

/-- The table of a root with the children `kids` and of the nodes after it. -/
def withBody (kids : List NodeId) (rest : List NodeEntry) : NodeTable :=
  ⟨⟨.element "body" [], none, kids⟩ :: rest, []⟩

theorem exec_push_root (kids : List NodeId) (rest : List NodeEntry) (content : NodeContent) :
    exec (push Document.root content) (withBody kids rest) =
      (.ok (rest.length + 1),
        withBody (kids ++ [rest.length + 1]) (rest ++ [⟨content, some Document.root, []⟩])) := by
  rw [push, exec_bind_of_ok (exec_createIn ..), exec_bind_of_ok (exec_change (Nat.zero_lt_succ _))]
  rfl

/-- A node is added below the last one. -/
theorem exec_push_last (e : NodeEntry) (hn : rest.length + 1 = n) :
    exec (push n content) (withBody kids (rest ++ [e])) =
      (.ok (n + 1), withBody kids
        (rest ++ [{ e with children := e.children ++ [n + 1] }] ++ [⟨content, some n, []⟩])) := by
  subst hn
  let made := withBody kids (rest ++ [e] ++ [⟨content, some (rest.length + 1), []⟩])
  have hmade : made.update (rest.length + 1)
        (fun e => { e with children := e.children ++ [rest.length + 1 + 1] }) =
      withBody kids (rest ++ [{ e with children := e.children ++ [rest.length + 1 + 1] }] ++
        [⟨content, some (rest.length + 1), []⟩]) := by
    rw [update, List.modify_eq_take_cons_drop (by simp [made, withBody])]
    simp [made, withBody]
  have hlen : (withBody kids (rest ++ [e])).nodes.length = rest.length + 1 + 1 := by
    simp [withBody]
  rw [push, exec_bind_of_ok (exec_createIn ..), hlen]
  refine (exec_bind_of_ok (exec_change (by simp [withBody]))).trans ?_
  exact congrArg (Prod.mk _) hmade

theorem exec_pushBlock (kids : List NodeId) (rest : List NodeEntry) (b : Block) :
    let f := (b.toForest (rest.length + 1)).1
    exec (pushBlock b) (withBody kids rest) =
      (.ok (), withBody (kids ++ f.siblings)
        (rest ++ (f.entries (some Document.root)).map Prod.snd)) := by
  cases b with
  | paragraph s =>
      rw [pushBlock, exec_bind_of_ok (exec_push_root ..), exec_bind_of_ok (exec_push_last _ rfl),
        List.append_assoc]
      rfl
  | blank s => exact exec_bind_of_ok (exec_push_root ..)
  | code s =>
      rw [pushBlock, exec_bind_of_ok (exec_push_root ..), exec_bind_of_ok (exec_push_last _ rfl),
        exec_bind_of_ok (exec_push_last _ (by simp)), List.append_assoc, List.append_assoc]
      rfl

/-- The steps of blocks put their forest at the end of what is below the root. -/
theorem exec_pushBlocks (kids : List NodeId) (rest : List NodeEntry) (blocks : List Block) :
    let f := (Block.forestOf (rest.length + 1) blocks).1
    exec (pushBlocks blocks) (withBody kids rest) =
      (.ok (), withBody (kids ++ f.siblings)
        (rest ++ (f.entries (some Document.root)).map Prod.snd)) := by
  induction blocks generalizing kids rest with
  | nil => simp [pushBlocks, Block.forestOf, Forest.siblings, Forest.entries]; rfl
  | cons b blocks ih =>
      -- a block takes as many numbers as it has nodes
      have hnext (n : NodeId) : (b.toForest n).2 =
          n + (((b.toForest n).1.entries (some Document.root)).map Prod.snd).length := by
        cases b <;> rfl
      intro f
      have hf : f = (b.toForest (rest.length + 1)).1 ++
          (Block.forestOf (b.toForest (rest.length + 1)).2 blocks).1 := rfl
      rw [pushBlocks, exec_bind_of_ok (exec_pushBlock ..), ih, List.length_append,
        Nat.add_right_comm, ← hnext, hf, Forest.siblings_append, Forest.entries_append,
        List.map_append, List.append_assoc, List.append_assoc]

end NodeTable

/-! ### The table of a document -/

namespace Forest

theorem IsNode.excludesBelow_content {id : NodeId} {n : Forest} (h : IsNode id n) :
    n.content.excludesBelow = n.headExcluded := by
  cases h <;> rfl

end Forest

namespace Document

theorem excludesBelow_table_of_tree? {d : Document} (wf : d.WellFormed) {id : NodeId} {n : Forest}
    (h : d.tree? id = some n) : d.table.excludesBelow id = n.headExcluded := by
  rw [NodeTable.excludesBelow, getElem?_table_of_lt (wf.mem_ids_iff.mp (mem_ids_of_tree? h)),
    Option.map_some, Option.getD_some, content_entry h, (isNode_of_tree? h).excludesBelow_content]

namespace WellFormed

variable {d : Document} (wf : d.WellFormed) {x id : NodeId}
include wf

/-- Where the nodes are numbered in document order, the table is the list of the entries. -/
theorem table_eq_of_ids (hids : d.ids = List.range d.fresh) :
    d.table = ⟨d.entries.map Prod.snd, d.log⟩ := by
  have hentry : ∀ p ∈ d.entries, (d.entry ∘ Prod.fst) p = p.2 := fun p hp => wf.entry_of_mem hp
  rw [table, ← hids, ← map_fst_entries, List.map_map, List.map_congr_left hentry]

theorem parent?_table (id : NodeId) : d.table.parent? id = d.parent? id :=
  wf.parent?_bind id

theorem children_table (id : NodeId) : d.table.children id = d.children id := by
  rw [NodeTable.children, getElem?_table]
  split_ifs with h
  · rfl
  · rw [← wf.mem_ids_iff] at h
    rw [children, tree?_eq_none_iff.mpr h]
    rfl

theorem childOf_table : d.table.ChildOf = d.ChildOf := by
  funext c p
  rw [NodeTable.ChildOf, ChildOf, wf.parent?_table]

theorem excludesBelow_table : d.table.excludesBelow = d.excludesBelow := by
  funext id
  rw [excludesBelow]
  cases h : d.tree? id with
  | some n => exact excludesBelow_table_of_tree? wf h
  | none =>
      rw [tree?_eq_none_iff, wf.mem_ids_iff] at h
      rw [NodeTable.excludesBelow, getElem?_table, if_neg h]
      rfl

theorem visit_table {stack : List NodeId} (n : Nat) (hs : ∀ i ∈ stack, i ∈ d.ids) :
    d.table.visit n stack = d.visit n stack := by
  induction n generalizing stack with
  | zero => cases stack <;> rfl
  | succ n ih =>
      cases stack with
      | nil => rfl
      | cons id stack =>
          obtain ⟨hid, hstack⟩ := List.forall_mem_cons.mp hs
          have hknown : ∀ i ∈ d.children id ++ stack, i ∈ d.ids :=
            List.forall_mem_append.mpr
              ⟨fun c hc => mem_ids_of_mem_above (wf.mem_above_of_mem_children hc), hstack⟩
          rw [NodeTable.visit, getElem?_table_of_lt (wf.mem_ids_iff.mp hid), Option.bind_some,
            children_entry, ih hknown, visit]

/-! ### Walks -/

theorem isAncestor_table (x id : NodeId) :
    d.table.isAncestor x id = some ((d.above id).contains x) := by
  rw [NodeTable.isAncestor, wf.climb_table, length_table, wf.parent?_table, wf.linked.climb_above]

theorem isAttached_table (id : NodeId) : d.table.isAttached id = some (d.attached id) := by
  rw [NodeTable.isAttached, wf.climb_table, length_table, wf.linked.climb_attached]

theorem isExcluded_table (id : NodeId) : d.table.isExcluded id = some (d.excluded id) := by
  rw [NodeTable.isExcluded, wf.climb_table, length_table, wf.excludesBelow_table,
    wf.linked.climb_excluded]

theorem descendants_table (id : NodeId) : d.table.descendants id = some (d.subtree id) := by
  rw [NodeTable.descendants, length_table]
  split_ifs with h
  · have hid := wf.mem_ids_iff.mpr h
    rw [wf.visit_table _ (List.forall_mem_singleton.mpr hid), wf.linked.visit_subtree id hid]
  · rw [← wf.mem_ids_iff] at h
    rw [subtree, tree?_eq_none_iff.mpr h]
    rfl

/-- A node and the elements above it are those that following parents comes to. -/
theorem mem_cons_above_iff : x ∈ id :: d.above id ↔ ReflTransGen d.ChildOf id x := by
  rw [List.mem_cons, wf.mem_above_iff_transGen, Relation.reflTransGen_iff_eq_or_transGen]

theorem attached_iff_reflTransGen :
    d.attached id = true ↔ ReflTransGen d.ChildOf id root := by
  rw [attached_iff_mem, ← wf.mem_cons_above_iff, List.mem_cons, eq_comm]

theorem excluded_iff_reflTransGen :
    d.excluded id = true ↔ ∃ x, ReflTransGen d.ChildOf id x ∧ d.excludesBelow x = true := by
  rw [← wf.any_excludesBelow, List.any_eq_true]
  exact exists_congr fun x => and_congr_left fun _ => wf.mem_cons_above_iff

theorem mem_subtree_iff_reflTransGen :
    id ∈ d.subtree x ↔ id < d.fresh ∧ ReflTransGen d.ChildOf id x := by
  rw [wf.mem_subtree_iff, wf.mem_ids_iff, ← wf.mem_cons_above_iff, List.mem_cons, eq_comm]

theorem isElement_entry_of_parent? (h : d.parent? id = some x) :
    (d.entry x).content.isElement = true := by
  obtain ⟨t, a, c, hx, -⟩ := mem_children_iff_tree?.mp (wf.mem_children_iff.mpr h)
  rw [content_entry hx]
  rfl

/-- **The stored links of a well-formed document form a forest.** -/
theorem linked_table : d.table.Linked where
  mem_children p c := by rw [wf.children_table, wf.parent?_table, wf.mem_children_iff]
  children_nodup p := wf.children_table p ▸ wf.children_nodup p
  parent_element p c h := by
    rw [wf.parent?_table] at h
    obtain ⟨-, hp, -⟩ := wf.lt_of_parent? h
    exact ⟨d.entry p, getElem?_table_of_lt hp, wf.isElement_entry_of_parent? h⟩
  acyclic id := wf.childOf_table ▸ wf.linked.acyclic id
  isAncestor_ends x id := by
    refine ⟨_, wf.isAncestor_table x id, ?_⟩
    rw [wf.childOf_table, ← wf.mem_above_iff_transGen, List.contains_iff_mem]
  isAttached_ends id := by
    refine ⟨_, wf.isAttached_table id, ?_⟩
    rw [wf.childOf_table, wf.attached_iff_reflTransGen]
  isExcluded_ends id := by
    refine ⟨_, wf.isExcluded_table id, ?_⟩
    rw [wf.childOf_table, wf.excludesBelow_table, wf.excluded_iff_reflTransGen]
  descendants_ends id := by
    refine ⟨_, wf.descendants_table id, wf.subtree_nodup id, fun x => ?_⟩
    rw [wf.childOf_table, length_table, wf.mem_subtree_iff_reflTransGen]
  isAttached_iff id := by
    rw [wf.isAttached_table, wf.descendants_table, Option.some_inj,
      wf.attached_iff_mem_subtree]
    simp

end WellFormed

end Document

namespace NodeTable

/-- **The table of a plain text is that of its document.** -/
theorem ofPlainText_eq (s : String) : ofPlainText s = (Document.ofPlainText s).table := by
  have wf := Document.wellFormed_ofPlainText s
  have hpush : ofPlainText s = _ :=
    congrArg Prod.snd (exec_pushBlocks [] [] (Block.ofText s))
  rw [hpush, wf.table_eq_of_ids (Document.ids_ofPlainText s), Document.entries,
    Document.ofPlainText, List.flatMap_singleton, Forest.entries, Forest.entries, List.append_nil]
  rfl

/-- **The stored links form a forest, whatever was done.**  A table begins as that of an empty
document or of a plain text, and then come the steps of any changes, in any order and with any
arguments; some of them may be refused.  The table is that of the document to which the changes
lead, so its links are those of the document. -/
theorem linked_of_changes (changes : List TreeChange) :
    (let t := empty.after changes
     let d := Document.empty.changeAll changes
     t = d.table ∧ t.Linked ∧ d.Linked) ∧
    ∀ s,
      let t := (ofPlainText s).after changes
      let d := (Document.ofPlainText s).changeAll changes
      t = d.table ∧ t.Linked ∧ d.Linked := by
  have reached (s : String) :
      let t := (ofPlainText s).after changes
      let d := (Document.ofPlainText s).changeAll changes
      t = d.table ∧ t.Linked ∧ d.Linked := by
    intro t d
    have wf₀ := Document.wellFormed_ofPlainText s
    have wf : d.WellFormed := Document.wellFormed_changeAll wf₀ changes
    have htable : t = d.table := by
      show (ofPlainText s).after changes = _
      rw [ofPlainText_eq, wf₀.table_changeAll]
    exact ⟨htable, htable ▸ wf.linked_table, (Document.links_of_reached changes).2 s⟩
  have hempty : ofPlainText "" = empty := rfl
  refine ⟨?_, reached⟩
  rw [← hempty, Document.empty_eq_ofPlainText]
  exact reached ""

end NodeTable

end TextMasking
