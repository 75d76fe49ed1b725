import TextMasking.Proofs.Document.StepwiseMasks

/-! # Refused changes leave nothing behind

The changes of a document are carried out step by step (`TreeChange.steps`), in any order from a
plain text on (`NodeTable.after`); the tables that are reached so are those of the documents that
can be reached (`Document.WellFormed.table_changeAll`).  A change that is refused has been refused
before its first step that can be seen: every node keeps what it holds and its links, and the log is
as it was (`TreeChange.refused_of_reached`).  Only a node that was to be added has been made, and it
stays without links. -/

namespace TextMasking

open NodeTable (Steps Stop exec)

namespace TreeChange

/-- The steps of a change; the answer names the nodes that were made. -/
def steps : TreeChange → Steps (List NodeId)
  | .host (.createElement tag) => ([·]) <$> NodeTable.create (.element (lowerAscii tag) [])
  | .host (.createText content) => ([·]) <$> NodeTable.create (.text content)
  | .host (.appendElement parent tag) =>
    ([·]) <$> NodeTable.appendNew parent (.element (lowerAscii tag) [])
  | .host (.appendText parent content) => ([·]) <$> NodeTable.appendNew parent (.text content)
  | .host (.appendChild parent child) => (fun _ => []) <$> NodeTable.appendChild parent child
  | .host (.remove id) => (fun _ => []) <$> NodeTable.remove id
  | .host (.setAttribute id name value) =>
    (fun _ => []) <$> NodeTable.setAttribute id name value
  | .host .takeLog => (fun _ => []) <$> (modify fun t => { t with log := [] } : Steps Unit)
  | .replaceText id fragments => NodeTable.replaceText id fragments
  | .unmask id => ([·]) <$> NodeTable.unmask id

/-- The node that a change makes before it is known whether it can be put below its parent. -/
def made : TreeChange → List NodeEntry
  | .host (.appendElement _ tag) => [⟨.element (lowerAscii tag) [], none, []⟩]
  | .host (.appendText _ content) => [⟨.text content, none, []⟩]
  | _ => []

end TreeChange

namespace NodeTable

theorem exec_map {α β : Type} (f : α → β) (x : Steps α) (t : NodeTable) :
    exec (f <$> x) t = ((exec x t).1.map f, (exec x t).2) := by
  rw [map_eq_pure_bind, exec_bind]
  rcases exec x t with ⟨_ | _, t'⟩ <;> rfl

/-- The table after the steps of changes in order, refused or not. -/
def after (t : NodeTable) (changes : List TreeChange) : NodeTable :=
  changes.foldl (fun t c => (exec c.steps t).2) t

end NodeTable

namespace Document

/-- What a change answers: the nodes that it made, or why it was refused. -/
def answer (d : Document) : TreeChange → Except TreeError (List NodeId)
  | .host (.createElement _) => .ok [d.fresh]
  | .host (.createText _) => .ok [d.fresh]
  | .host (.appendElement parent tag) => (d.appendElement parent tag).1.map ([·])
  | .host (.appendText parent content) => (d.appendText parent content).1.map ([·])
  | .host (.appendChild parent child) => (d.appendChild parent child).map fun _ => []
  | .host (.remove id) => (d.remove id).map fun _ => []
  | .host (.setAttribute id name value) => (d.setAttribute id name value).map fun _ => []
  | .host .takeLog => .ok []
  | .replaceText id fragments => (d.replaceText id fragments).map (·.1)
  | .unmask id => (d.unmask id).map fun r => [r.1]

namespace WellFormed

variable {d : Document} (wf : d.WellFormed)
include wf

/-- **The steps of a change come to what the change comes to.** -/
theorem exec_steps (c : TreeChange) :
    exec c.steps d.table = ((d.answer c).mapError .refused, (d.change c).table) := by
  have hmap {α β : Type} (f : α → β) (r : Except TreeError α) :
      (r.mapError Stop.refused).map f = (r.map f).mapError .refused := by
    cases r <;> rfl
  have hmap₂ {α β γ : Type} (f : α → β) (g : β → γ) (r : Except TreeError α) :
      ((r.map f).mapError Stop.refused).map g = (r.map (g ∘ f)).mapError .refused := by
    cases r <;> rfl
  cases c with
  | replaceText id fragments => exact wf.exec_replaceText id fragments
  | unmask id =>
      rw [TreeChange.steps, NodeTable.exec_map, wf.exec_unmask, hmap₂]
      rfl
  | host e =>
      cases e with
      | createElement tag =>
          rw [TreeChange.steps, NodeTable.exec_map,
            wf.exec_create ((Extends.createElement wf tag).wellFormed wf) rfl]
          rfl
      | createText content =>
          rw [TreeChange.steps, NodeTable.exec_map,
            wf.exec_create ((Extends.createText wf content).wellFormed wf) rfl]
          rfl
      | appendElement parent tag =>
          rw [TreeChange.steps, NodeTable.exec_map, wf.exec_appendElement, hmap]
          rfl
      | appendText parent content =>
          rw [TreeChange.steps, NodeTable.exec_map, wf.exec_appendText, hmap]
          rfl
      | appendChild parent child =>
          rw [TreeChange.steps, NodeTable.exec_map, wf.exec_appendChild, hmap₂]
          rfl
      | remove id =>
          rw [TreeChange.steps, NodeTable.exec_map, wf.exec_remove, hmap₂]
          rfl
      | setAttribute id name value =>
          rw [TreeChange.steps, NodeTable.exec_map, wf.exec_setAttribute, hmap₂]
          rfl
      | takeLog => rfl

/-- **The tables that are reached step by step are those of the documents that are reached.** -/
theorem table_changeAll (changes : List TreeChange) :
    d.table.after changes = (d.changeAll changes).table := by
  induction changes generalizing d with
  | nil => rfl
  | cons c changes ih =>
      rw [NodeTable.after, List.foldl_cons, wf.exec_steps]
      exact ih (wellFormed_change wf c)

theorem table_appendTree_of_error {parent : NodeId} (tree : Forest) {content : NodeContent}
    {e : TreeError} (wf' : (d.addTree tree).WellFormed)
    (htree : tree.entries none = [(d.fresh, ⟨content, none, []⟩)])
    (h : (d.appendTree parent tree).1 = .error e) :
    (d.appendTree parent tree).2.table =
      { d.table with nodes := d.table.nodes ++ [⟨content, none, []⟩] } := by
  rw [appendTree] at h ⊢
  cases happ : (d.addTree tree).appendChild parent d.fresh with
  | ok d' =>
      rw [happ] at h
      cases h
  | error e => exact (wf.table_addTree wf' htree).symm

/-- **A refused change leaves the document as it was**, apart from a node that was to be added. -/
theorem table_of_refused {c : TreeChange} {e : TreeError} (h : d.answer c = .error e) :
    (d.change c).table = { d.table with nodes := d.table.nodes ++ c.made } := by
  have same : d.table = { d.table with nodes := d.table.nodes ++ [] } := by rw [List.append_nil]
  have edited {r : Except TreeError Document} {f : Document → List NodeId}
      (h : r.map f = .error e) : (d.orSame r).table = d.table := by
    cases r with
    | ok d' => cases h
    | error e' => rfl
  have masked {α : Type} {r : Except TreeError (α × Document)} {f : α × Document → List NodeId}
      (h : r.map f = .error e) : (d.orSame (r.map (·.2))).table = d.table := by
    cases r with
    | ok d' => cases h
    | error e' => rfl
  have added {r : Except TreeError NodeId} {f : NodeId → List NodeId} (h : r.map f = .error e) :
      ∃ e', r = .error e' := by
    cases r with
    | ok id => cases h
    | error e' => exact ⟨e', rfl⟩
  cases c with
  | replaceText id fragments => exact (masked h).trans same
  | unmask id => exact (masked h).trans same
  | host edit =>
      cases edit with
      | createElement tag => cases h
      | createText content => cases h
      | takeLog => cases h
      | appendChild parent child => exact (edited h).trans same
      | remove id => exact (edited h).trans same
      | setAttribute id name value => exact (edited h).trans same
      | appendElement parent tag =>
          obtain ⟨e', he⟩ := added h
          exact wf.table_appendTree_of_error (.element d.fresh (lowerAscii tag) [] .nil .nil)
            ((Extends.createElement wf tag).wellFormed wf) rfl he
      | appendText parent content =>
          obtain ⟨e', he⟩ := added h
          exact wf.table_appendTree_of_error (.text d.fresh content .nil)
            ((Extends.createText wf content).wellFormed wf) rfl he

end WellFormed

end Document

namespace TreeChange

/-- At most one node is made, and it has no links. -/
theorem made_unlinked (c : TreeChange) :
    c.made.length ≤ 1 ∧ ∀ e ∈ c.made, e.parent = none ∧ e.children = [] := by
  rw [made.eq_def]
  split <;> simp

/-- **A change that is refused leaves nothing behind.**  Whatever was done to a plain text before,
the steps of a change that come to an error come to the error of the change.  They leave every node
as it was, with what it holds, its parent and its children, and so the log; if a node was to be
added, it is there without a parent and without children. -/
theorem refused_of_reached (s : String) (changes : List TreeChange) (c : TreeChange) {stop : Stop}
    {t : NodeTable}
    (h : exec c.steps ((Document.ofPlainText s).table.after changes) = (.error stop, t)) :
    let d := (Document.ofPlainText s).changeAll changes
    (Document.ofPlainText s).table.after changes = d.table ∧
      (∃ e, stop = .refused e ∧ d.answer c = .error e) ∧
      t = (d.change c).table ∧
      t.nodes = d.table.nodes ++ c.made ∧ t.log = d.table.log ∧
      c.made.length ≤ 1 ∧ ∀ e ∈ c.made, e.parent = none ∧ e.children = [] := by
  intro d
  have wf₀ := Document.wellFormed_ofPlainText s
  have wf : d.WellFormed := Document.wellFormed_changeAll wf₀ changes
  have hreached : (Document.ofPlainText s).table.after changes = d.table :=
    wf₀.table_changeAll changes
  rw [hreached, wf.exec_steps c] at h
  obtain ⟨hanswer, rfl⟩ := Prod.mk.inj h
  cases he : d.answer c with
  | ok ids =>
      rw [he] at hanswer
      cases hanswer
  | error e =>
      rw [he] at hanswer
      cases hanswer
      have htable := wf.table_of_refused he
      exact ⟨hreached, ⟨e, rfl, rfl⟩, rfl, congrArg NodeTable.nodes htable,
        by rw [htable], c.made_unlinked⟩

/-- An element is not moved below one that lies in it: both stay where they are. -/
theorem refused_cycle :
    let d := (Document.ofPlainText "").changeAll
      [.host (.appendElement 0 "div"), .host (.appendElement 1 "span")]
    let t := (Document.ofPlainText "").table.after
      [.host (.appendElement 0 "div"), .host (.appendElement 1 "span")]
    exec (host (.appendChild 2 1)).steps t = (.error (.refused (.wouldCycle 1)), t) ∧ t = d.table ∧
      d.answer (.host (.appendChild 2 1)) = .error (.wouldCycle 1) := by
  intro d t
  have h : exec (host (.appendChild 2 1)).steps t = (.error (.refused (.wouldCycle 1)), t) := rfl
  obtain ⟨hreached, ⟨e, he, hanswer⟩, -⟩ := refused_of_reached "" _ _ h
  cases he
  exact ⟨h, hreached, hanswer⟩

/-- A text holds no other text: the new one is made, and stays alone. -/
example :
    exec (host (.appendText 2 "b")).steps (Document.ofPlainText "a").table =
      (.error (.refused (.notAnElement 2)), { (Document.ofPlainText "a").table with
        nodes := (Document.ofPlainText "a").table.nodes ++ [⟨.text "b", none, []⟩] }) := rfl

end TreeChange

end TextMasking
