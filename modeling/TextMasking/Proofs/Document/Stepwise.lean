import TextMasking.Proofs.Document.Additions
import TextMasking.Proofs.Document.NodeTable

/-! # Changes step by step come to what the changes of documents come to

`Document.table` is the table of a document.  The steps of an edit, run on the table of a
well-formed document, come to the result of the edit of the document and leave the table of the
document that the edit leaves (`Document.WellFormed.exec_remove`, `exec_appendChild`,
`exec_appendNew`, `exec_setAttribute`); so they never get stuck. -/

namespace TextMasking

namespace NodeTable

variable {α β : Type} {x : Steps α} {f : α → Steps β} {t t' : NodeTable} {a : α} {s : Stop}
  {id j : NodeId} {e : NodeEntry}

/-! ### Runs -/

theorem exec_bind (x : Steps α) (f : α → Steps β) (t : NodeTable) :
    exec (x >>= f) t =
      match exec x t with
      | (.ok a, t') => exec (f a) t'
      | (.error s, t') => (.error s, t') := by
  show (ExceptT.run (x >>= f)).run t = _
  rw [exec, ExceptT.run_bind, StateT.run_bind]
  show (match (x.run.run t) with | (r, t') => _) = _
  rcases x.run.run t with ⟨_ | _, t'⟩ <;> rfl

theorem exec_bind_of_ok (h : exec x t = (.ok a, t')) : exec (x >>= f) t = exec (f a) t' := by
  rw [exec_bind, h]

theorem exec_bind_of_error (h : exec x t = (.error s, t')) :
    exec (x >>= f) t = (.error s, t') := by
  rw [exec_bind, h]

theorem exec_orStop {o : Option α} (h : o = some a) : exec (orStop s o) t = (.ok a, t) := by
  rw [h]
  rfl

theorem exec_orStop_of_none {o : Option α} (h : o = none) :
    exec (orStop s o) t = (.error s, t) := by
  rw [h]
  rfl

theorem exec_find (h : t.nodes[id]? = some e) : exec (find id) t = (.ok e, t) :=
  exec_orStop h

theorem exec_find_of_none (h : t.nodes[id]? = none) :
    exec (find id) t = (.error (.refused (.unknownNode id)), t) :=
  exec_orStop_of_none h

theorem exec_follow (h : t.nodes[id]? = some e) : exec (follow id) t = (.ok e, t) :=
  exec_orStop h

theorem exec_ensure {c : Bool} {error : TreeError} (h : c = true) :
    exec (ensure c error) t = (.ok (), t) := by
  rw [h]
  rfl

theorem exec_ensure_of_false {c : Bool} {error : TreeError} (h : c = false) :
    exec (ensure c error) t = (.error (.refused error), t) := by
  rw [h]
  rfl

theorem exec_recordIf (c : Bool) (m : Mutation) (t : NodeTable) :
    exec (recordIf c m) t = (.ok (), { t with log := t.log ++ if c then [m] else [] }) := rfl

theorem exec_change {f : NodeEntry → NodeEntry} (h : id < t.nodes.length) :
    exec (change id f) t = (.ok (), t.update id f) :=
  exec_bind_of_ok (exec_follow (List.getElem?_eq_getElem h))

theorem exec_reaches {stop : NodeId → Bool} {start : Option NodeId} {b : Bool}
    (h : t.climb stop t.nodes.length start = some b) :
    exec (reaches stop start) t = (.ok b, t) :=
  exec_orStop h

/-! ### Updates -/

@[simp] theorem length_update (t : NodeTable) (id : NodeId) (f : NodeEntry → NodeEntry) :
    (t.update id f).nodes.length = t.nodes.length :=
  List.length_modify ..

theorem getElem?_update (t : NodeTable) (id j : NodeId) (f : NodeEntry → NodeEntry) :
    (t.update id f).nodes[j]? = if j = id then t.nodes[j]?.map f else t.nodes[j]? := by
  rw [update, List.getElem?_modify]
  by_cases h : j = id
  · subst h
    simp
  · simp [h, Ne.symm h]

end NodeTable

namespace Document

open NodeTable (Stop exec exec_bind_of_ok exec_bind_of_error exec_ensure exec_ensure_of_false
  exec_change exec_reaches exec_recordIf getElem?_update length_update)

/-- The entries of a document by number, and its log. -/
def table (d : Document) : NodeTable :=
  ⟨(List.range d.fresh).map d.entry, d.log⟩

@[simp] theorem length_table (d : Document) : d.table.nodes.length = d.fresh := by
  simp [table]

theorem getElem?_table (d : Document) (j : NodeId) :
    d.table.nodes[j]? = if j < d.fresh then some (d.entry j) else none := by
  rw [table, List.getElem?_map]
  split_ifs with h
  · rw [List.getElem?_range h, Option.map_some]
  · rw [List.getElem?_eq_none (by simpa using h), Option.map_none]

theorem getElem?_table_of_lt {d : Document} {j : NodeId} (h : j < d.fresh) :
    d.table.nodes[j]? = some (d.entry j) := by
  rw [getElem?_table, if_pos h]

theorem exec_follow {d : Document} {j : NodeId} (h : j < d.fresh) :
    exec (NodeTable.follow j) d.table = (.ok (d.entry j), d.table) :=
  NodeTable.exec_follow (getElem?_table_of_lt h)

/-- A table with the entries and the log of a document is its table. -/
theorem eq_table {d : Document} {t : NodeTable} (hlog : t.log = d.log)
    (hlen : t.nodes.length = d.fresh)
    (h : ∀ j, j < d.fresh → t.nodes[j]? = some (d.entry j)) : t = d.table := by
  obtain ⟨nodes, log⟩ := t
  obtain rfl : log = d.log := hlog
  congr 1
  refine List.ext_getElem? fun j => ?_
  by_cases hj : j < d.fresh
  · rw [h j hj, ← getElem?_table_of_lt hj]
    rfl
  · rw [List.getElem?_eq_none (by simpa [hlen] using hj), List.getElem?_eq_none (by simpa using hj)]

namespace WellFormed

variable {d : Document} (wf : d.WellFormed) {id x j : NodeId}
include wf

theorem parent?_bind (id : NodeId) : (d.table.nodes[id]?.bind (·.parent)) = d.parent? id := by
  rw [getElem?_table]
  split_ifs with h
  · rfl
  · rw [← wf.mem_ids_iff] at h
    rw [parent?, above_eq_nil_of_not_mem h]
    rfl

theorem climb_table (stop : NodeId → Bool) (n : Nat) (start : Option NodeId) :
    d.table.climb stop n start = d.climb stop n start := by
  induction n generalizing start with
  | zero => cases start <;> rfl
  | succ n ih =>
      cases start with
      | none => rfl
      | some id => rw [NodeTable.climb, climb, ih, wf.parent?_bind]

theorem exec_find {n : Forest} (h : d.tree? id = some n) :
    exec (NodeTable.find id) d.table = (.ok (d.entry id), d.table) :=
  NodeTable.exec_find (getElem?_table_of_lt (wf.mem_ids_iff.mp (mem_ids_of_tree? h)))

theorem exec_find_of_none (h : d.tree? id = none) :
    exec (NodeTable.find id) d.table = (.error (.refused (.unknownNode id)), d.table) := by
  rw [tree?_eq_none_iff, wf.mem_ids_iff] at h
  exact NodeTable.exec_find_of_none (by rw [getElem?_table, if_neg h])

theorem exec_attached (id : NodeId) :
    exec (NodeTable.attached id) d.table = (.ok (d.attached id), d.table) := by
  refine exec_reaches ?_
  rw [wf.climb_table, length_table, wf.linked.climb_attached]

theorem exec_liesAbove (x id : NodeId) :
    exec (NodeTable.liesAbove x id) d.table = (.ok ((d.above id).contains x), d.table) := by
  refine exec_reaches ?_
  rw [wf.parent?_bind, wf.climb_table, length_table, wf.linked.climb_above]

end WellFormed

/-! ### Taking a node out of its parent -/

/-- Takes a node out of its parent, if it has one, and logs nothing. -/
def detach (d : Document) (id : NodeId) : Document :=
  match d.place? id with
  | none => d
  | some place =>
    if place.above.isEmpty then d
    else { d.erase id with trees := (d.erase id).trees ++ [place.node] }

@[simp] theorem log_detach (d : Document) (id : NodeId) : (d.detach id).log = d.log := by
  rw [detach]
  split
  · rfl
  · split_ifs <;> rfl

section Place

variable {d : Document} {id x : NodeId} {p : Forest.Place}

theorem parent?_eq_none_iff_isEmpty (hp : d.place? id = some p) :
    d.parent? id = none ↔ p.above.isEmpty := by
  rw [parent?, above, hp, List.head?_eq_none_iff, List.map_eq_nil_iff, List.isEmpty_iff]

theorem above_ne_nil_of_parent? (hp : d.place? id = some p) (hx : d.parent? id = some x) :
    p.above ≠ [] := by
  rw [ne_eq, ← List.isEmpty_iff, ← parent?_eq_none_iff_isEmpty hp, hx]
  exact Option.some_ne_none x

end Place

theorem detach_eq_self {d : Document} {id : NodeId} (h : d.parent? id = none) :
    d.detach id = d := by
  rw [detach]
  cases hp : d.place? id with
  | none => rfl
  | some p => exact if_pos ((parent?_eq_none_iff_isEmpty hp).mp h)

theorem remove_eq {d : Document} {id : NodeId} (h : id ∈ d.ids) :
    d.remove id = .ok ((d.detach id).note (d.removal id)) := by
  rw [remove, detach]
  cases hp : d.place? id with
  | none => exact absurd h (place?_eq_none_iff.mp hp)
  | some p =>
      dsimp only
      split_ifs with ha
      · rw [removal, (parent?_eq_none_iff_isEmpty hp).mpr ha]
        simp [note]
      · rfl

namespace WellFormed

variable {d : Document} (wf : d.WellFormed) {id x j : NodeId} {e : NodeEntry}
include wf

theorem extends_detach (id : NodeId) : Extends d (d.detach id) [] := by
  by_cases hid : id ∈ d.ids
  · exact (Extends.remove wf (remove_eq hid)).of_trees rfl rfl
  · rw [detach, place?_eq_none_iff.mpr hid]
    exact .refl wf

theorem detach (id : NodeId) : (d.detach id).WellFormed :=
  (wf.extends_detach id).wellFormed wf

theorem lt_of_parent? (hx : d.parent? id = some x) : id < d.fresh ∧ x < d.fresh ∧ x ≠ id := by
  have habove := wf.above_of_parent? hx
  obtain ⟨t, a, c, htree, -⟩ := mem_children_iff_tree?.mp (wf.mem_children_iff.mpr hx)
  refine ⟨wf.mem_ids_iff.mp (mem_ids_of_mem_above (habove ▸ List.mem_cons_self)),
    wf.mem_ids_iff.mp (mem_ids_of_tree? htree), ?_⟩
  rintro rfl
  exact wf.not_mem_above_self (habove ▸ List.mem_cons_self)

theorem fresh_detach (id : NodeId) : (d.detach id).fresh = d.fresh :=
  (wf.extends_detach id).fresh_eq

/-- An erased node is not listed, and nothing is linked to it. -/
theorem mem_entries_erase (h : (j, e) ∈ (d.erase id).entries) :
    j ≠ id ∧ j ∈ d.ids ∧ e = (d.entry j).relink id [] := by
  have hsub : (d.erase id).trees ⊆ d.trees.map (Forest.substitute id .nil) := by
    rw [funext (Forest.erase_eq_substitute id) |>.symm]
    exact List.filter_sublist.subset
  obtain ⟨t, ht, hj⟩ := List.mem_flatMap.mp h
  rcases wf.mem_entries_substitute (List.mem_flatMap.mpr ⟨t, hsub ht, hj⟩) with h | h
  · cases h
  · exact h

/-- **The entries when a node is out of its parent.** -/
theorem entry_detach (hid : id ∈ d.ids) (hj : j ∈ d.ids) :
    (d.detach id).entry j =
      if j = id then { d.entry id with parent := none } else (d.entry j).relink id [] := by
  cases hx : d.parent? id with
  | none =>
      rw [detach_eq_self hx]
      split_ifs with hjid
      · rw [hjid, entry, hx]
      · refine (NodeEntry.relink_of_not_mem fun hc => ?_).symm
        have := wf.mem_children_iff.mp hc
        rw [hx] at this
        cases this
  | some x =>
      obtain ⟨p, hp⟩ := exists_place?_iff.mpr hid
      have ha : ¬p.above.isEmpty := mt List.isEmpty_iff.mp (above_ne_nil_of_parent? hp hx)
      obtain ⟨below, hbelow, hother⟩ := wf.exists_below (tree?_of_place? hp)
      have hmem := wf.mem_entries_of_extends (wf.extends_detach id) hj
      generalize (d.detach id).entry j = e at hmem
      rw [Document.detach, hp] at hmem
      dsimp only at hmem
      rw [if_neg ha, entries, List.flatMap_append, List.flatMap_singleton, List.mem_append,
        hbelow, List.mem_cons] at hmem
      rcases hmem with h | h | h
      · obtain ⟨hne, -, rfl⟩ := wf.mem_entries_erase (e := e) h
        rw [if_neg hne]
      · cases h
        rw [if_pos rfl]
      · obtain ⟨hne, hid, hlisted⟩ := hother j e h
        rw [if_neg hne, wf.entry_of_mem hlisted, NodeEntry.relink_of_not_mem hid]

/-- Only the parent is linked to a node. -/
theorem not_mem_children (hx : d.parent? id = some x) (h : j ≠ x) : id ∉ (d.entry j).children := by
  intro hc
  have := wf.mem_children_iff.mp hc
  rw [hx] at this
  exact h (Option.some.inj this).symm

theorem table_detach (hx : d.parent? id = some x) :
    (d.table.update x fun e => { e with children := e.children.filter (· != id) }).update id
      (fun e => { e with parent := none }) = (d.detach id).table := by
  obtain ⟨hid, -, hne⟩ := wf.lt_of_parent? hx
  refine eq_table (log_detach d id).symm (by simp [wf.fresh_detach]) fun j hj => ?_
  rw [wf.fresh_detach] at hj
  rw [wf.entry_detach (wf.mem_ids_iff.mpr hid) (wf.mem_ids_iff.mpr hj), getElem?_update,
    getElem?_update, getElem?_table_of_lt hj]
  by_cases hjid : j = id
  · subst hjid
    rw [if_pos rfl, if_pos rfl, if_neg hne.symm]
    rfl
  · rw [if_neg hjid, if_neg hjid]
    split_ifs with hjx
    · rw [NodeEntry.relink, relink_nil]
      rfl
    · rw [NodeEntry.relink_of_not_mem (wf.not_mem_children hx hjx)]

theorem exec_unlink (hx : d.parent? id = some x) :
    exec (NodeTable.unlink x id) d.table = (.ok (), (d.detach id).table) := by
  obtain ⟨hid, hlt, -⟩ := wf.lt_of_parent? hx
  rw [NodeTable.unlink, exec_bind_of_ok (exec_change (by simpa)), exec_change (by simpa),
    wf.table_detach hx]

/-- **Taking a node out step by step.** -/
theorem exec_detach (hid : id ∈ d.ids) :
    exec (NodeTable.detach id) d.table =
      (.ok ((d.parent? id).isSome && d.attached id), (d.detach id).table) := by
  obtain ⟨n, hn⟩ := exists_tree?_iff.mpr hid
  rw [NodeTable.detach, exec_bind_of_ok (wf.exec_find hn), parent_entry]
  cases hx : d.parent? id with
  | none =>
      rw [detach_eq_self hx]
      rfl
  | some x =>
      rw [exec_bind_of_ok (wf.exec_attached id), exec_bind_of_ok (wf.exec_unlink hx)]
      rfl

theorem exec_detach_of_not_mem (hid : id ∉ d.ids) :
    exec (NodeTable.detach id) d.table = (.error (.refused (.unknownNode id)), d.table) :=
  exec_bind_of_error (wf.exec_find_of_none (tree?_eq_none_iff.mpr hid))

end WellFormed

theorem table_note (d : Document) (ms : List Mutation) :
    (d.note ms).table = { d.table with log := d.table.log ++ ms } := rfl

/-- **Removing a node step by step.** -/
theorem WellFormed.exec_remove {d : Document} (wf : d.WellFormed) (id : NodeId) :
    exec (NodeTable.remove id) d.table =
      (((d.remove id).map fun _ => ()).mapError .refused, (d.orSame (d.remove id)).table) := by
  rw [NodeTable.remove]
  by_cases hid : id ∈ d.ids
  · rw [exec_bind_of_ok (wf.exec_detach hid), remove_eq hid]
    show _ = (_, ((d.detach id).note (d.removal id)).table)
    rw [table_note]
    rfl
  · rw [exec_bind_of_error (wf.exec_detach_of_not_mem hid), remove, place?_eq_none_iff.mpr hid]
    rfl

/-! ### Moving a node -/

/-- The document with `tree`, which is the node `child`, below the element `parent`. -/
def adopt (d : Document) (parent child : NodeId) (tree : Forest) : Document :=
  { d with trees := (d.erase child).trees.map (Forest.appendChild parent tree) }

theorem note_if (d : Document) (c : Bool) (ms : List Mutation) :
    (if c then d.note ms else d) = d.note (if c then ms else []) := by
  cases c
  · exact (congrArg (fun log => { d with log }) (List.append_nil d.log)).symm
  · rfl

theorem appendChild_eq {d : Document} {parent child : NodeId} {t : String} {a : Attributes}
    {c tree : Forest} (hp : d.tree? parent = some (.element parent t a c .nil))
    (hc : d.tree? child = some tree) (hne : parent ≠ child) (hab : child ∉ d.above parent) :
    d.appendChild parent child =
      let moved := (d.adopt parent child tree).note (d.removal child)
      .ok (moved.note (if moved.attached child then [.added child] else [])) := by
  have hcycle : ¬(parent = child || (d.above parent).contains child) := by
    simpa [hne] using hab
  rw [appendChild, hp]
  dsimp only
  rw [hc]
  dsimp only
  rw [if_neg hcycle]
  exact congrArg Except.ok (note_if ..)

namespace WellFormed

variable {d : Document} (wf : d.WellFormed) {parent child j : NodeId} {t : String} {a : Attributes}
  {c tree : Forest}
include wf

theorem extends_adopt (hp : d.tree? parent = some (.element parent t a c .nil))
    (hc : d.tree? child = some tree) (hne : parent ≠ child) (hab : child ∉ d.above parent) :
    Extends d (d.adopt parent child tree) [] :=
  (Extends.appendChild wf (appendChild_eq hp hc hne hab)).of_trees rfl rfl

/-- **The entries when a node has come below an element.** -/
theorem entry_adopt (hp : d.tree? parent = some (.element parent t a c .nil))
    (hc : d.tree? child = some tree) (hne : parent ≠ child) (hab : child ∉ d.above parent)
    (hj : j ∈ d.ids) :
    (d.adopt parent child tree).entry j =
      if j = child then { (d.detach child).entry child with parent := some parent }
      else if j = parent then
        { (d.detach child).entry parent with
          children := ((d.detach child).entry parent).children ++ [child] }
      else (d.detach child).entry j := by
  have hchild := mem_ids_of_tree? hc
  have hmem := wf.mem_entries_of_extends (wf.extends_adopt hp hc hne hab) hj
  generalize (d.adopt parent child tree).entry j = e at hmem
  obtain ⟨u', hu', hmem⟩ := List.mem_flatMap.mp hmem
  obtain ⟨u, hu, rfl⟩ := List.mem_map.mp hu'
  have hlisted {i : NodeId} {e : NodeEntry} (h : (i, e) ∈ u.entries none) :
      i ≠ child ∧ i ∈ d.ids ∧ e = (d.entry i).relink child [] :=
    wf.mem_entries_erase (List.mem_flatMap.mpr ⟨u, hu, h⟩)
  have helement (e : NodeEntry) (he : (parent, e) ∈ u.entries none) :
      ∃ t a, e.content = .element t a := by
    obtain ⟨-, -, rfl⟩ := hlisted he
    exact ⟨t, a, content_entry hp⟩
  have hnodup : u.ids.Nodup := (List.nodup_flatMap.mp (wf.nodup_erase hc)).1 u hu
  rcases Forest.mem_entries_appendChild hnodup helement hmem with h | ⟨e₀, h, he⟩
  · obtain ⟨below, hbelow, hother⟩ := wf.exists_below hc
    rw [hbelow, List.mem_cons] at h
    rcases h with h | h
    · cases h
      rw [if_pos rfl, wf.entry_detach hchild hchild, if_pos rfl]
    · obtain ⟨hjc, hnot, hlisted⟩ := hother j e h
      have hjp : j ≠ parent := by
        rintro rfl
        have hmem : (j, e) ∈ tree.entries none := hbelow none ▸ List.mem_cons_of_mem _ h
        exact wf.not_mem_ids_of_tree? hc hne hab (Forest.mem_ids_of_mem_entries hmem)
      rw [if_neg hjc, if_neg hjp, wf.entry_detach hchild hj, if_neg hjc, wf.entry_of_mem hlisted,
        NodeEntry.relink_of_not_mem hnot]
  · obtain ⟨hjc, -, rfl⟩ := hlisted h
    rw [he, (isNode_of_tree? hc).siblings_eq, if_neg hjc, wf.entry_detach hchild hj, if_neg hjc]
    split_ifs with hjp
    · subst hjp
      rw [wf.entry_detach hchild hj, if_neg hjc]
    · rfl

theorem table_adopt (hp : d.tree? parent = some (.element parent t a c .nil))
    (hc : d.tree? child = some tree) (hne : parent ≠ child) (hab : child ∉ d.above parent) :
    ((d.detach child).table.update child fun e => { e with parent := some parent }).update parent
      (fun e => { e with children := e.children ++ [child] }) =
        (d.adopt parent child tree).table := by
  refine eq_table (log_detach d child) (by simp [wf.fresh_detach, adopt]) fun j hj => ?_
  replace hj : j < d.fresh := hj
  rw [wf.entry_adopt hp hc hne hab (wf.mem_ids_iff.mpr hj), getElem?_update, getElem?_update,
    getElem?_table_of_lt (wf.fresh_detach child ▸ hj)]
  by_cases hjp : j = parent
  · subst hjp
    rw [if_pos rfl, if_neg hne, if_neg hne, if_pos rfl]
    rfl
  · rw [if_neg hjp, if_neg hjp]
    split_ifs with hjc
    · subst hjc
      rfl
    · rfl

theorem exec_move (hp : d.tree? parent = some (.element parent t a c .nil))
    (hc : d.tree? child = some tree) (hne : parent ≠ child) (hab : child ∉ d.above parent) :
    exec (NodeTable.move parent child) d.table =
      (((d.appendChild parent child).map fun _ => ()).mapError .refused,
        (d.orSame (d.appendChild parent child)).table) := by
  let moved := (d.adopt parent child tree).note (d.removal child)
  have hmoved : Extends d moved [] := (wf.extends_adopt hp hc hne hab).of_trees rfl rfl
  have wf' := hmoved.wellFormed wf
  have hchild : child < ((d.detach child).note (d.removal child)).table.nodes.length := by
    rw [length_table]
    exact wf.fresh_detach child ▸ wf.mem_ids_iff.mp (mem_ids_of_tree? hc)
  have hparent : parent < ((d.detach child).note (d.removal child)).table.nodes.length := by
    rw [length_table]
    exact wf.fresh_detach child ▸ wf.mem_ids_iff.mp (mem_ids_of_tree? hp)
  have hlinked :
      (((d.detach child).note (d.removal child)).table.update child
        fun e => { e with parent := some parent }).update parent
          (fun e => { e with children := e.children ++ [child] }) = moved.table :=
    congrArg (fun t : NodeTable => { t with log := t.log ++ d.removal child })
      (wf.table_adopt hp hc hne hab)
  rw [NodeTable.move, exec_bind_of_ok (wf.exec_detach (mem_ids_of_tree? hc)),
    exec_bind_of_ok (exec_recordIf ..)]
  show exec _ ((d.detach child).note (d.removal child)).table = _
  rw [exec_bind_of_ok (exec_change hchild),
    exec_bind_of_ok (exec_change (by rwa [length_update])), hlinked,
    exec_bind_of_ok (wf'.exec_attached child), exec_recordIf, appendChild_eq hp hc hne hab]
  rfl

/-- **Moving a node step by step.** -/
theorem exec_appendChild (parent child : NodeId) :
    exec (NodeTable.appendChild parent child) d.table =
      (((d.appendChild parent child).map fun _ => ()).mapError .refused,
        (d.orSame (d.appendChild parent child)).table) := by
  rw [NodeTable.appendChild]
  cases hp : d.tree? parent with
  | none =>
      rw [exec_bind_of_error (wf.exec_find_of_none hp), appendChild, hp]
      rfl
  | some n =>
      rw [exec_bind_of_ok (wf.exec_find hp)]
      cases isNode_of_tree? hp with
      | text | mask =>
          rw [exec_bind_of_error (exec_ensure_of_false (by rw [content_entry hp]; rfl)),
            appendChild, hp]
          rfl
      | element t a c =>
          rw [exec_bind_of_ok (exec_ensure (by rw [content_entry hp]; rfl))]
          cases hc : d.tree? child with
          | none =>
              rw [exec_bind_of_error (wf.exec_find_of_none hc), appendChild, hp]
              dsimp only
              rw [hc]
              rfl
          | some tree =>
              rw [exec_bind_of_ok (wf.exec_find hc), exec_bind_of_ok (wf.exec_liesAbove ..)]
              by_cases hcycle : parent = child ∨ child ∈ d.above parent
              · have hrefused : (parent != child && !(d.above parent).contains child) = false := by
                  simpa [or_iff_not_imp_left] using hcycle
                rw [exec_bind_of_error (exec_ensure_of_false hrefused), appendChild, hp]
                dsimp only
                rw [hc]
                dsimp only
                rw [if_pos (by simpa using hcycle)]
                rfl
              · obtain ⟨hne, hab⟩ := not_or.mp hcycle
                rw [exec_bind_of_ok (exec_ensure (by simpa [hne] using hab)),
                  wf.exec_move hp hc hne hab]

end WellFormed

/-! ### New nodes -/

/-- A new tree below an element. It is made even if it cannot be put there. -/
def appendTree (d : Document) (parent : NodeId) (tree : Forest) :
    Except TreeError NodeId × Document :=
  match (d.addTree tree).appendChild parent d.fresh with
  | .ok d' => (.ok d.fresh, d')
  | .error e => (.error e, d.addTree tree)

namespace WellFormed

variable {d : Document} (wf : d.WellFormed) {id parent : NodeId} {tree : Forest}
  {content : NodeContent}
include wf

theorem table_addTree (wf' : (d.addTree tree).WellFormed)
    (htree : tree.entries none = [(d.fresh, ⟨content, none, []⟩)]) :
    { d.table with nodes := d.table.nodes ++ [⟨content, none, []⟩] } = (d.addTree tree).table := by
  have hentries : (d.addTree tree).entries = d.entries ++ [(d.fresh, ⟨content, none, []⟩)] := by
    rw [entries, addTree, List.flatMap_append, List.flatMap_singleton, htree]
    rfl
  refine eq_table rfl (by simp [addTree]) fun j hj => ?_
  replace hj : j < d.fresh + 1 := hj
  rw [List.getElem?_append, length_table]
  split_ifs with h
  · have hmem : (j, d.entry j) ∈ (d.addTree tree).entries :=
      hentries ▸ List.mem_append_left _ (wf.mem_entries (wf.mem_ids_iff.mpr h))
    rw [getElem?_table_of_lt h, wf'.entry_of_mem hmem]
  · obtain rfl : j = d.fresh := Nat.le_antisymm (Nat.le_of_lt_succ hj) (Nat.not_lt.mp h)
    have hmem : (d.fresh, ⟨content, none, []⟩) ∈ (d.addTree tree).entries :=
      hentries ▸ List.mem_append_right _ List.mem_cons_self
    rw [Nat.sub_self, wf'.entry_of_mem hmem]
    rfl

theorem exec_create (wf' : (d.addTree tree).WellFormed)
    (htree : tree.entries none = [(d.fresh, ⟨content, none, []⟩)]) :
    exec (NodeTable.create content) d.table = (.ok d.fresh, (d.addTree tree).table) := by
  rw [← wf.table_addTree wf' htree]
  show (Except.ok d.table.nodes.length, _) = _
  rw [length_table]

/-- **Adding a node step by step.** -/
theorem exec_appendNew (tree : Forest) (wf' : (d.addTree tree).WellFormed)
    (htree : tree.entries none = [(d.fresh, ⟨content, none, []⟩)]) (parent : NodeId) :
    exec (NodeTable.appendNew parent content) d.table =
      ((d.appendTree parent tree).1.mapError .refused, (d.appendTree parent tree).2.table) := by
  rw [NodeTable.appendNew, exec_bind_of_ok (wf.exec_create wf' htree), appendTree,
    NodeTable.exec_bind, wf'.exec_appendChild]
  cases (d.addTree tree).appendChild parent d.fresh <;> rfl

theorem exec_appendElement (parent : NodeId) (tag : String) :
    exec (NodeTable.appendNew parent (.element (lowerAscii tag) [])) d.table =
      ((d.appendElement parent tag).1.mapError .refused,
        (d.appendElement parent tag).2.table) :=
  wf.exec_appendNew (.element d.fresh (lowerAscii tag) [] .nil .nil)
    ((Extends.createElement wf tag).wellFormed wf) rfl parent

theorem exec_appendText (parent : NodeId) (content : String) :
    exec (NodeTable.appendNew parent (.text content)) d.table =
      ((d.appendText parent content).1.mapError .refused, (d.appendText parent content).2.table) :=
  wf.exec_appendNew (.text d.fresh content .nil)
    ((Extends.createText wf content).wellFormed wf) rfl parent

end WellFormed

/-! ### Attributes -/

/-- The document with an attribute set, which is not logged yet. -/
def withAttribute (d : Document) (id : NodeId) (name value : String) : Document :=
  { d with trees := d.trees.map (·.setAttribute id (lowerAscii name) value) }

theorem setAttribute_eq {d : Document} {id : NodeId} {name value t : String} {a : Attributes}
    {c : Forest} (h : d.tree? id = some (.element id t a c .nil)) :
    d.setAttribute id name value = .ok ((d.withAttribute id name value).note
      (if d.attached id then [.attribute id] else [])) := by
  rw [setAttribute, h]
  exact congrArg Except.ok (note_if ..)

namespace WellFormed

variable {d : Document} (wf : d.WellFormed) {id : NodeId} {name value t : String} {a : Attributes}
  {c : Forest}
include wf

theorem extends_withAttribute (name value : String)
    (h : d.tree? id = some (.element id t a c .nil)) :
    Extends d (d.withAttribute id name value) [] :=
  (Extends.setAttribute wf (setAttribute_eq h)).of_trees rfl rfl

theorem table_withAttribute (h : d.tree? id = some (.element id t a c .nil)) :
    d.table.update id
        (fun e => { e with content := e.content.setAttribute (lowerAscii name) value }) =
      (d.withAttribute id name value).table := by
  refine eq_table rfl (by simp [withAttribute]) fun j hj => ?_
  replace hj : j < d.fresh := hj
  have hext := wf.extends_withAttribute name value h
  have hmem := wf.mem_entries_of_extends hext (wf.mem_ids_iff.mpr hj)
  obtain ⟨u, hu, hmem⟩ := List.mem_flatMap.mp hmem
  obtain ⟨t, ht, rfl⟩ := List.mem_map.mp hu
  obtain ⟨e, he, heq⟩ := Forest.mem_entries_setAttribute (wf.tree_nodup ht) hmem
  rw [heq, getElem?_update, getElem?_table_of_lt hj,
    wf.entry_of_mem (List.mem_flatMap.mpr ⟨t, ht, he⟩)]
  split_ifs <;> rfl

/-- **Setting an attribute step by step.** -/
theorem exec_setAttribute (id : NodeId) (name value : String) :
    exec (NodeTable.setAttribute id name value) d.table =
      (((d.setAttribute id name value).map fun _ => ()).mapError .refused,
        (d.orSame (d.setAttribute id name value)).table) := by
  rw [NodeTable.setAttribute]
  cases hid : d.tree? id with
  | none =>
      rw [exec_bind_of_error (wf.exec_find_of_none hid), setAttribute, hid]
      rfl
  | some n =>
      rw [exec_bind_of_ok (wf.exec_find hid)]
      cases isNode_of_tree? hid with
      | text | mask =>
          rw [exec_bind_of_error (exec_ensure_of_false (by rw [content_entry hid]; rfl)),
            setAttribute, hid]
          rfl
      | element t a c =>
          have wf' := (wf.extends_withAttribute name value hid).wellFormed wf
          have hattached : (d.withAttribute id name value).attached id = d.attached id := by
            rw [attached, attached, ← above_setAttribute wf (setAttribute_eq hid)]
            rfl
          have hlt : id < d.table.nodes.length := by
            rw [length_table]
            exact wf.mem_ids_iff.mp (mem_ids_of_tree? hid)
          rw [exec_bind_of_ok (exec_ensure (by rw [content_entry hid]; rfl)),
            exec_bind_of_ok (exec_change hlt), wf.table_withAttribute hid,
            exec_bind_of_ok (wf'.exec_attached id), exec_recordIf, hattached, setAttribute_eq hid]
          rfl

end WellFormed

end Document

end TextMasking
