import TextMasking.Proofs.Document.Siblings
import TextMasking.Proofs.Document.Stepwise

/-! # Masks step by step

The steps that take a text apart and those that turn a mask back come to what the changes of the
document come to (`Document.WellFormed.exec_replaceText`, `Document.WellFormed.exec_unmask`). -/

namespace TextMasking

theorem relink_append (id : NodeId) (new l l' : List NodeId) :
    relink id new (l ++ l') = relink id new l ++ relink id new l' :=
  List.flatMap_append

/-- A node among others is replaced where it stands. -/
theorem relink_middle {id : NodeId} {new pre post : List NodeId} (hpre : id ∉ pre)
    (hpost : id ∉ post) : relink id new (pre ++ id :: post) = pre ++ new ++ post := by
  rw [relink_append, relink_cons_self, relink_of_not_mem hpre, relink_of_not_mem hpost,
    List.append_assoc]

theorem relink_self (id : NodeId) (l : List NodeId) : relink id [id] l = l := by
  induction l with
  | nil => rfl
  | cons c l ih => by_cases h : c = id <;> simp [relink_cons_of_ne, h, ih]

/-- The node before one among others is the last one of those before it. -/
theorem getElem?_before (pre post : List NodeId) (id : NodeId) :
    (if pre.length = 0 then none else (pre ++ id :: post)[pre.length - 1]?) = pre.getLast? := by
  rw [List.getLast?_eq_getElem?]
  split_ifs with h
  · rw [List.eq_nil_of_length_eq_zero h]
    rfl
  · rw [List.getElem?_append_left (by omega)]

theorem getElem?_after (pre post : List NodeId) (id : NodeId) :
    (pre ++ id :: post)[pre.length + 1]? = post.head? := by
  rw [List.getElem?_append_right (by omega), Nat.add_sub_cancel_left, List.getElem?_cons_succ,
    List.head?_eq_getElem?]

theorem idxOf?_middle {id : NodeId} {pre post : List NodeId} (h : id ∉ pre) :
    (pre ++ id :: post).idxOf? id = some pre.length := by
  induction pre with
  | nil => simp [List.idxOf?_cons]
  | cons i pre ih =>
      rw [List.mem_cons, not_or] at h
      rw [List.cons_append, List.idxOf?_cons, if_neg (by simpa using Ne.symm h.1), ih h.2]
      rfl

namespace Forest

variable {f : Forest} {i k : NodeId} {s : String}

theorem IsNode.substitute_text (h : IsNode k f) : IsNode k (substitute i (.text i s .nil) f) := by
  by_cases hki : k = i
  · subst hki
    have hself : substitute k (.text k s .nil) f = .text k s .nil := by cases h <;> exact if_pos rfl
    rw [hself]
    exact .text s
  · cases h with
    | text c => rw [substitute, if_neg hki]; exact .text c
    | mask m => rw [substitute, if_neg hki]; exact .mask m
    | element t a c => rw [substitute, if_neg hki]; exact .element t a _

/-- Rewriting a text changes nothing but the content of the text. -/
theorem shapes_substitute_text (h : ∀ k, (i, k) ∈ f.nodes → ∃ s, k = .text s) :
    (substitute i (.text i s .nil) f).shapes = f.shapes := by
  induction f with
  | nil => rfl
  | text j c rest ih =>
      rw [substitute]
      split_ifs with hji
      · subst hji
        rfl
      · exact congrArg (_ :: ·) (ih fun k hk => h k (List.mem_cons_of_mem _ hk))
  | mask j m rest ih =>
      have hji : j ≠ i := by
        rintro rfl
        obtain ⟨s, hs⟩ := h _ List.mem_cons_self
        cases hs
      rw [substitute, if_neg hji]
      exact congrArg (_ :: ·) (ih fun k hk => h k (List.mem_cons_of_mem _ hk))
  | element j t a c rest ihc ih =>
      have hji : j ≠ i := by
        rintro rfl
        obtain ⟨s, hs⟩ := h _ List.mem_cons_self
        cases hs
      have hc := ihc fun k hk => h k (List.mem_cons_of_mem _ (List.mem_append_left _ hk))
      have hr := ih fun k hk => h k (List.mem_cons_of_mem _ (List.mem_append_right _ hk))
      rw [substitute, if_neg hji]
      simp only [shapes, nodes, List.map_cons, List.map_append] at hc hr ⊢
      rw [hc, hr]

end Forest

namespace Fragment

theorem siblings_toForest (fresh : NodeId) (fragments : List Fragment) :
    (toForest fresh fragments).siblings = List.range' fresh fragments.length := by
  induction fragments generalizing fresh with
  | nil => rfl
  | cons f rest ih => cases f <;> simp [toForest, Forest.siblings, ih, List.range'_succ]

/-- The leaves of fragments are listed in their order. -/
theorem getElem?_of_mem_entries {fragments : List Fragment} {fresh j : NodeId}
    {parent : Option NodeId} {e : NodeEntry}
    (h : (j, e) ∈ (toForest fresh fragments).entries parent) :
    (fragments.map fun f => (⟨.ofFragment f, parent, []⟩ : NodeEntry))[j - fresh]? = some e := by
  induction fragments generalizing fresh with
  | nil => cases h
  | cons f rest ih =>
      have hrest (h : (j, e) ∈ (toForest (fresh + 1) rest).entries parent) :
          ((f :: rest).map fun f => (⟨.ofFragment f, parent, []⟩ : NodeEntry))[j - fresh]? =
            some e := by
        have hj := Forest.mem_ids_of_mem_entries h
        rw [ids_toForest, List.mem_range'_1] at hj
        have hsucc : j - fresh = j - (fresh + 1) + 1 := by
          rw [Nat.sub_add_eq, Nat.sub_add_cancel (Nat.le_sub_of_add_le' hj.1)]
        rw [List.map_cons, hsucc, List.getElem?_cons_succ, ih h]
      cases f <;>
      · rcases List.mem_cons.mp h with h | h
        · cases h
          simp [NodeContent.ofFragment]
        · exact hrest h

end Fragment

namespace NodeTable

/-- A node that is made below another one is told its parent at once. -/
theorem exec_createIn (t : NodeTable) (x : NodeId) (content : NodeContent) :
    exec (createIn x content) t =
      (.ok t.nodes.length, { t with nodes := t.nodes ++ [⟨content, some x, []⟩] }) := by
  let made : NodeTable := { t with nodes := t.nodes ++ [⟨content, none, []⟩] }
  have hcreate : exec (create content) t = (.ok t.nodes.length, made) := rfl
  have hmade : made.update t.nodes.length (fun e => { e with parent := some x }) =
      { t with nodes := t.nodes ++ [⟨content, some x, []⟩] } := by
    rw [update, List.modify_eq_take_cons_drop (by simp [made])]
    simp [made]
  rw [createIn, exec_bind_of_ok hcreate, exec_bind_of_ok (exec_change (by simp [made])), hmade]
  rfl

theorem exec_createAll (t : NodeTable) (x : NodeId) (fragments : List Fragment) :
    exec (createAll x fragments) t =
      (.ok (List.range' t.nodes.length fragments.length),
        { t with nodes := t.nodes ++
          fragments.map fun f => ⟨.ofFragment f, some x, []⟩ }) := by
  induction fragments generalizing t with
  | nil => simp [createAll]; rfl
  | cons f rest ih =>
      rw [createAll, exec_bind_of_ok (exec_createIn ..), exec_bind_of_ok (ih _)]
      simp [List.range'_succ]
      rfl

end NodeTable

namespace Document

theorem eq_of_fields {d d' : Document} (ht : d.trees = d'.trees) (hf : d.fresh = d'.fresh)
    (hl : d.log = d'.log) : d = d' := by
  cases d
  cases d'
  congr

open NodeTable (Stop exec exec_bind_of_ok exec_bind_of_error exec_ensure exec_ensure_of_false
  exec_change getElem?_update length_update)

/-! ### A leaf is replaced -/

/-- A node stands once among its siblings. -/
theorem WellFormed.not_mem_of_children {d : Document} (wf : d.WellFormed) {id x : NodeId}
    {pre post : List NodeId} (h : d.children x = pre ++ id :: post) : id ∉ pre ∧ id ∉ post := by
  have hnodup := wf.children_nodup x
  rw [h, List.nodup_append, List.nodup_cons] at hnodup
  exact ⟨fun hid => hnodup.2.2 id hid id List.mem_cons_self rfl, hnodup.2.1.1⟩

/-- The leaf `id` of `d` is replaced by `new`, and is a tree of its own then. -/
structure Replaced (d d' : Document) (id : NodeId) (new : Forest) : Prop where
  wellFormed : d'.WellFormed
  mem_ids : id ∈ d.ids
  exists_node : ∃ node : Forest, node.entries none = [(id, { d.entry id with parent := none })] ∧
    d'.trees = d.trees.map (Forest.substitute id new) ++ [node]
  ids_new : new.ids = List.range' d.fresh new.ids.length
  fresh_eq : d'.fresh = d.fresh + new.ids.length
  log_eq : d'.log = d.log

namespace Replaced

variable {d d' : Document} {id x j : NodeId} {new : Forest} (h : Replaced d d' id new)
  (wf : d.WellFormed)
include h wf

theorem mem_entries_cases (hj : j < d'.fresh) :
    (j, d'.entry j) ∈ new.entries (d.parent? id) ∨
      j < d.fresh ∧ d'.entry j = if j = id then { d.entry id with parent := none }
        else (d.entry j).relink id new.siblings := by
  obtain ⟨node, hnode, htrees⟩ := h.exists_node
  have hmem := h.wellFormed.mem_entries (h.wellFormed.mem_ids_iff.mpr hj)
  generalize d'.entry j = e at hmem
  rw [entries, htrees, List.flatMap_append, List.flatMap_singleton, hnode, List.mem_append,
    List.mem_singleton] at hmem
  rcases hmem with hmem | hmem
  · refine (wf.mem_entries_substitute hmem).imp_right ?_
    rintro ⟨hne, hj, rfl⟩
    exact ⟨wf.mem_ids_iff.mp hj, (if_neg hne).symm⟩
  · cases hmem
    exact .inr ⟨wf.mem_ids_iff.mp h.mem_ids, (if_pos rfl).symm⟩

theorem entry_of_lt (hj : j < d.fresh) :
    d'.entry j = if j = id then { d.entry id with parent := none }
      else (d.entry j).relink id new.siblings := by
  rcases h.mem_entries_cases wf (h.fresh_eq ▸ Nat.lt_add_right _ hj) with hmem | ⟨-, he⟩
  · have := Forest.mem_ids_of_mem_entries hmem
    rw [h.ids_new, List.mem_range'_1] at this
    exact absurd hj (Nat.not_lt.mpr this.1)
  · exact he

theorem mem_entries_of_le (hj : d.fresh ≤ j) (hj' : j < d'.fresh) :
    (j, d'.entry j) ∈ new.entries (d.parent? id) :=
  (h.mem_entries_cases wf hj').resolve_right fun hlt => absurd hlt.1 (Nat.not_lt.mpr hj)

/-- **Replacing a leaf step by step**, when the nodes in its place have been made. -/
theorem exec_putInstead (hx : d.parent? id = some x) {pre post : List NodeId}
    (hc : d.children x = pre ++ id :: post) {made : List NodeEntry}
    (hlen : made.length = new.ids.length)
    (hmade : ∀ j e, (j, e) ∈ new.entries (some x) → made[j - d.fresh]? = some e) :
    exec (NodeTable.putInstead x id pre.length new.siblings)
      { d.table with nodes := d.table.nodes ++ made } = (.ok (), d'.table) := by
  obtain ⟨hid, hlt, hne⟩ := wf.lt_of_parent? hx
  obtain ⟨hpre, hpost⟩ := wf.not_mem_of_children hc
  have hlength : (d.table.nodes ++ made).length = d.fresh + made.length := by simp
  rw [NodeTable.putInstead, exec_bind_of_ok (exec_change (hlength ▸ Nat.lt_add_right _ hlt)),
    exec_change (by
      rw [length_update]
      exact hlength ▸ Nat.lt_add_right _ hid)]
  congr 1
  refine eq_table h.log_eq.symm (by simp [h.fresh_eq, hlen]) fun j hj => ?_
  rw [getElem?_update, getElem?_update]
  by_cases hold : j < d.fresh
  · have hj' : (d.table.nodes ++ made)[j]? = some (d.entry j) := by
      rw [List.getElem?_append_left (by simpa using hold), getElem?_table_of_lt hold]
    rw [hj', h.entry_of_lt wf hold]
    by_cases hjid : j = id
    · subst hjid
      rw [if_pos rfl, if_pos rfl, if_neg hne.symm]
      rfl
    · rw [if_neg hjid, if_neg hjid]
      split_ifs with hjx
      · subst hjx
        simp [NodeEntry.relink, hc, relink_middle hpre hpost]
      · rw [NodeEntry.relink_of_not_mem (wf.not_mem_children hx hjx)]
  · have hjid : j ≠ id := fun heq => hold (heq ▸ hid)
    have hjx : j ≠ x := fun heq => hold (heq ▸ hlt)
    rw [if_neg hjid, if_neg hjx,
      List.getElem?_append_right (by simpa using hold), length_table]
    exact hmade j _ (hx ▸ h.mem_entries_of_le wf (Nat.not_lt.mp hold) hj)

end Replaced

/-! ### Taking a text apart -/

theorem replaceText_eq {d : Document} {id : NodeId} {p : Forest.Place} {s : String}
    (hp : d.place? id = some p) (hnode : p.node = .text id s .nil)
    (ha : p.above ≠ []) (hattached : d.attached id = true) (fragments : List Fragment) :
    d.replaceText id fragments = .ok ((Fragment.toForest d.fresh fragments).siblings,
      { d with
        trees := d.trees.map (Forest.splice id (Fragment.toForest d.fresh fragments)) ++
          [.text id s .nil]
        fresh := d.fresh + fragments.length }) := by
  have hallowed : ¬(p.above.isEmpty || !d.attached id) := by simpa [hattached] using ha
  rw [replaceText, hp]
  simp only [hnode, if_neg hallowed]

namespace WellFormed

variable {d : Document} (wf : d.WellFormed) {id : NodeId} {fragments : List Fragment}
include wf

theorem replaced_replaceText {new : List NodeId} {d' : Document}
    (h : d.replaceText id fragments = .ok (new, d')) :
    Replaced d d' id (Fragment.toForest d.fresh fragments) := by
  obtain ⟨p, s, hp, hnode, ha, hattached, -, -⟩ := replaceText_cases h
  have htree : d.tree? id = some (.text id s .nil) := hnode ▸ tree?_of_place? hp
  have hlen : (Fragment.toForest d.fresh fragments).ids.length = fragments.length := by
    rw [Fragment.ids_toForest, List.length_range']
  have hsplice : d.trees.map (Forest.splice id (Fragment.toForest d.fresh fragments)) =
      d.trees.map (Forest.substitute id (Fragment.toForest d.fresh fragments)) := by
    refine List.map_congr_left fun t ht => Forest.splice_eq_substitute fun k hk => ⟨s, ?_⟩
    exact wf.kind_unique (List.mem_flatMap.mpr ⟨t, ht, hk⟩) (wf.tree?_text_iff.mp htree)
  have wf' := (Extends.replaceText wf h).wellFormed wf
  rw [replaceText_eq hp hnode ha hattached fragments] at h
  cases h
  exact {
    wellFormed := wf'
    mem_ids := mem_ids_of_tree? htree
    exists_node := ⟨.text id s .nil, by rw [entry_eq htree]; rfl, by rw [hsplice]⟩
    ids_new := by rw [hlen, Fragment.ids_toForest]
    fresh_eq := by rw [hlen]
    log_eq := rfl }

theorem exec_putFragments {p : Forest.Place} {s : String} {x : NodeId} (hp : d.place? id = some p)
    (hnode : p.node = .text id s .nil) (hx : d.parent? id = some x)
    (hattached : d.attached id = true) :
    exec (NodeTable.putFragments x id fragments) d.table =
      (((d.replaceText id fragments).map (·.1)).mapError .refused,
        (d.orSame ((d.replaceText id fragments).map (·.2))).table) := by
  have ha := above_ne_nil_of_parent? hp hx
  obtain ⟨x', hx', hchildren, -, -⟩ := wf.children_of_place? hp ha
  obtain rfl : x' = x := Option.some.inj (hx'.symm.trans hx)
  have hreplaced :=
    wf.replaced_replaceText (replaceText_eq hp hnode ha hattached fragments)
  have hpre := (wf.not_mem_of_children hchildren).1
  have hlen : (fragments.map fun f => (⟨.ofFragment f, some x', []⟩ : NodeEntry)).length =
      (Fragment.toForest d.fresh fragments).ids.length := by
    rw [List.length_map, Fragment.ids_toForest, List.length_range']
  have hfollow : exec (NodeTable.follow x') d.table = (.ok (d.entry x'), d.table) :=
    exec_follow (wf.lt_of_parent? hx).2.1
  rw [NodeTable.putFragments, exec_bind_of_ok hfollow, children_entry, hchildren,
    exec_bind_of_ok (NodeTable.exec_orStop (idxOf?_middle hpre)),
    exec_bind_of_ok (NodeTable.exec_createAll ..), length_table,
    ← Fragment.siblings_toForest d.fresh fragments,
    exec_bind_of_ok (hreplaced.exec_putInstead wf hx hchildren hlen fun j e hmem =>
      Fragment.getElem?_of_mem_entries hmem), replaceText_eq hp hnode ha hattached fragments]
  rfl

/-- **Taking a text apart step by step.** -/
theorem exec_replaceText (id : NodeId) (fragments : List Fragment) :
    exec (NodeTable.replaceText id fragments) d.table =
      (((d.replaceText id fragments).map (·.1)).mapError .refused,
        (d.orSame ((d.replaceText id fragments).map (·.2))).table) := by
  rw [NodeTable.replaceText]
  cases hp : d.place? id with
  | none =>
      rw [exec_bind_of_error (wf.exec_find_of_none (by rw [tree?, hp]; rfl)), replaceText, hp]
      rfl
  | some p =>
      have hid := tree?_of_place? hp
      rw [exec_bind_of_ok (wf.exec_find hid)]
      generalize hnode : p.node = n at hid
      cases isNode_of_tree? hid with
      | mask | element =>
          rw [exec_bind_of_error (exec_ensure_of_false (by rw [content_entry hid]; rfl)),
            replaceText, hp]
          simp only [hnode]
          rfl
      | text s =>
          rw [exec_bind_of_ok (exec_ensure (by rw [content_entry hid]; rfl))]
          cases hx : d.parent? id with
          | none =>
              have hrefused : p.above.isEmpty || !d.attached id := by
                rw [(parent?_eq_none_iff_isEmpty hp).mp hx, Bool.true_or]
              rw [parent_entry, exec_bind_of_error (NodeTable.exec_orStop_of_none hx), replaceText,
                hp]
              simp only [hnode, if_pos hrefused]
              rfl
          | some x =>
              rw [parent_entry, exec_bind_of_ok (NodeTable.exec_orStop hx),
                exec_bind_of_ok (wf.exec_attached id)]
              cases hattached : d.attached id with
              | false =>
                  have hrefused : p.above.isEmpty || !d.attached id := by
                    rw [hattached, Bool.not_false, Bool.or_true]
                  rw [exec_bind_of_error (exec_ensure_of_false rfl), replaceText, hp]
                  simp only [hnode, if_pos hrefused]
                  rfl
              | true =>
                  rw [exec_bind_of_ok (exec_ensure rfl)]
                  exact wf.exec_putFragments hp hnode hx hattached

end WellFormed

/-! ### Rewriting a text -/

/-- The document with another text at the text `i`. -/
def retext (d : Document) (i : NodeId) (s : String) : Document :=
  { d with trees := d.trees.map (Forest.substitute i (.text i s .nil)) }

/-- A leaf is told by its content. -/
theorem tree?_of_content {d : Document} {i : NodeId} {leaf : Forest} (hleaf : leaf.IsNode i)
    (hnot : leaf.content.isElement = false) (hi : i ∈ d.ids)
    (h : (d.entry i).content = leaf.content) : d.tree? i = some leaf := by
  obtain ⟨n, hn⟩ := exists_tree?_iff.mpr hi
  rw [content_entry hn] at h
  cases hleaf with
  | element t a c => cases hnot
  | text s =>
      cases isNode_of_tree? hn <;> cases h
      exact hn
  | mask m =>
      cases isNode_of_tree? hn <;> cases h
      exact hn

namespace WellFormed

variable {d : Document} (wf : d.WellFormed) {i j id x : NodeId} {s : String}
include wf

theorem extends_retext (hi : d.tree? i = some (.text i s .nil)) (s' : String) :
    Extends d (d.retext i s') [] where
  isNode := by
    intro u hu
    obtain ⟨t, ht, rfl⟩ := List.mem_map.mp hu
    obtain ⟨k, hk⟩ := wf.isNode t ht
    exact ⟨k, hk.substitute_text⟩
  shapes_perm := by
    have hshapes : ∀ t ∈ d.trees, (Forest.substitute i (.text i s' .nil) t).shapes = t.shapes := by
      refine fun t ht => Forest.shapes_substitute_text fun k hk => ⟨s, ?_⟩
      exact wf.kind_unique (List.mem_flatMap.mpr ⟨t, ht, hk⟩) (wf.tree?_text_iff.mp hi)
    rw [List.append_nil, shapes, retext, List.flatMap_map, List.flatMap_congr hshapes]
    exact .refl _
  numbered := rfl
  fresh_eq := rfl

/-- Only the entry of the text changes. -/
theorem entry_retext (hi : d.tree? i = some (.text i s .nil)) (s' : String) (hj : j < d.fresh) :
    (d.retext i s').entry j =
      if j = i then { d.entry i with content := .text s' } else d.entry j := by
  have hmem := wf.mem_entries_of_extends (wf.extends_retext hi s') (wf.mem_ids_iff.mpr hj)
  rcases wf.mem_entries_substitute hmem with h | ⟨hne, -, he⟩
  · have he : (d.retext i s').entry j = ⟨.text s', d.parent? i, []⟩ := by
      simpa [Forest.entries] using (Prod.mk.inj (List.mem_singleton.mp h)).2
    have hji : j = i := (Prod.mk.inj (List.mem_singleton.mp h)).1
    rw [if_pos hji, he, entry_eq hi]
    rfl
  · rw [if_neg hne, he, NodeEntry.relink]
    simp only [Forest.siblings, relink_self]

theorem table_retext (hi : d.tree? i = some (.text i s .nil)) (s' : String) :
    d.table.update i (fun e => { e with content := e.content.append s' }) =
      (d.retext i (s ++ s')).table := by
  refine eq_table rfl (by simp [retext]) fun j hj => ?_
  replace hj : j < d.fresh := hj
  rw [getElem?_update, getElem?_table_of_lt hj, wf.entry_retext hi _ hj]
  split_ifs with hji
  · subst hji
    rw [Option.map_some, content_entry hi]
    rfl
  · rfl

theorem trees_detach {n : Forest} (hx : d.parent? id = some x) (hid : d.tree? id = some n) :
    (d.detach id).trees = d.trees.map (Forest.substitute id .nil) ++ [n] := by
  obtain ⟨p, hp, rfl⟩ := Option.map_eq_some_iff.mp hid
  have ha : ¬p.above.isEmpty := mt List.isEmpty_iff.mp (above_ne_nil_of_parent? hp hx)
  have hkept : ∀ t ∈ d.trees.map (·.erase id), (t != .nil) = true := by
    intro t ht
    obtain ⟨u, hu, rfl⟩ := List.mem_map.mp ht
    obtain ⟨k, hk⟩ := wf.isNode u hu
    have hne := wf.ne_of_above_ne_nil hu hk hp (mt List.isEmpty_iff.mpr ha)
    rw [bne_iff_ne]
    intro hnil
    have := hk.erase hne
    rw [hnil] at this
    cases this
  rw [Document.detach, hp]
  dsimp only
  rw [if_neg ha]
  dsimp only [erase]
  rw [List.filter_eq_self.mpr hkept, funext (Forest.erase_eq_substitute id)]

end WellFormed

/-! ### Turning a mask back -/

theorem unmask_eq {d : Document} {id : NodeId} {p : Forest.Place} {m : Mask}
    (hp : d.place? id = some p) (hnode : p.node = .mask id m .nil) (ha : p.above ≠ []) :
    d.unmask id = .ok (
      let trees := d.trees.map (·.unmask id d.fresh) ++ p.after.firstTree ++ [.mask id m .nil]
      match p.before.firstText with
      | some (i, _) => (i, { d with trees })
      | none => (d.fresh, { d with trees, fresh := d.fresh + 1 })) := by
  have hallowed : ¬p.above.isEmpty := mt List.isEmpty_iff.mp ha
  rw [unmask, hp]
  simp only [hnode, if_neg hallowed]
  cases p.before <;> rfl

/-- The text right after the mask at the place `p` below `x` has been taken out of `d`. -/
structure Cleared (d d' : Document) (p : Forest.Place) (id x : NodeId) : Prop where
  wellFormed : d'.WellFormed
  exec_takeOut : exec (NodeTable.takeOut p.after.firstText) d.table =
    (.ok p.after.takeText.1, d'.table)
  trees_eq : d'.trees = d.trees.map (Forest.without p.after.firstText) ++ p.after.firstTree
  fresh_eq : d'.fresh = d.fresh
  log_eq : d'.log = d.log
  exists_children : ∃ post, d'.children x = p.before.siblings.reverse ++ id :: post
  entry_self : d'.entry id = d.entry id
  entry_before : ∀ i s, p.before.firstText = some (i, s) → d'.entry i = d.entry i
  /-- What was taken out is neither the mask nor the text before it. -/
  not_mem_firstTree : ∀ t ∈ p.after.firstTree,
    id ∉ t.ids ∧ ∀ i s, p.before.firstText = some (i, s) → i ∉ t.ids

namespace WellFormed

variable {d : Document} (wf : d.WellFormed) {id x : NodeId} {p : Forest.Place}
include wf

theorem exists_cleared (hx : d.parent? id = some x)
    (hchildren : d.children x = p.before.siblings.reverse ++ id :: p.after.siblings)
    (hbefore : p.before.entries (some x) ⊆ d.entries)
    (hafter : p.after.entries (some x) ⊆ d.entries) : ∃ d', Cleared d d' p id x := by
  cases hfirst : p.after.firstText with
  | none =>
      obtain ⟨htext, htree⟩ := Forest.takeText_of_firstText hfirst
      refine ⟨d, {
        wellFormed := wf
        exec_takeOut := by rw [hfirst, htext]; rfl
        trees_eq := by rw [hfirst, htree, List.append_nil]; exact (List.map_id' _).symm
        fresh_eq := rfl
        log_eq := rfl
        exists_children := ⟨_, hchildren⟩
        entry_self := rfl
        entry_before := fun _ _ _ => rfl
        not_mem_firstTree := by simp [htree] }⟩
  | some text =>
      obtain ⟨j, s⟩ := text
      obtain ⟨rest, hnext⟩ := Forest.exists_eq_text hfirst
      have hj : d.entry j = ⟨.text s, some x, []⟩ :=
        wf.entry_of_mem (hafter (hnext ▸ List.mem_cons_self))
      have hjx : d.parent? j = some x := congrArg NodeEntry.parent hj
      obtain ⟨hlt, -, hxj⟩ := wf.lt_of_parent? hjx
      have hjids := wf.mem_ids_iff.mpr hlt
      have htree := tree?_of_content (.text s) rfl hjids (congrArg NodeEntry.content hj)
      have hnodup := wf.children_nodup x
      rw [hchildren, hnext, Forest.siblings] at hnodup
      have hidj : id ≠ j := by
        rintro rfl
        exact (List.nodup_cons.mp (List.nodup_append.mp hnodup).2.1).1 List.mem_cons_self
      have hpre : j ∉ p.before.siblings.reverse := fun h =>
        (List.nodup_append.mp hnodup).2.2 j h j (by simp) rfl
      have hentry {i : NodeId} (hi : d.parent? i = some x) (hij : i ≠ j) :
          (d.detach j).entry i = d.entry i := by
        obtain ⟨hilt, -, hxi⟩ := wf.lt_of_parent? hi
        rw [wf.entry_detach hjids (wf.mem_ids_iff.mpr hilt), if_neg hij,
          NodeEntry.relink_of_not_mem (wf.not_mem_children hjx hxi.symm)]
      have hbeforej (i : NodeId) (c : String) (hi : p.before.firstText = some (i, c)) :
          i ≠ j := by
        rintro rfl
        exact hpre (List.mem_reverse.mpr (Forest.mem_siblings_of_firstText hi))
      refine ⟨d.detach j, {
        wellFormed := wf.detach j
        exec_takeOut := ?_
        trees_eq := ?_
        fresh_eq := wf.fresh_detach j
        log_eq := log_detach d j
        exists_children := ?_
        entry_self := hentry hx hidj
        entry_before := fun i c hi => hentry (congrArg NodeEntry.parent
          (wf.entry_of_mem (hbefore (Forest.mem_entries_of_firstText hi (some x)))))
          (hbeforej i c hi)
        not_mem_firstTree := ?_ }⟩
      · rw [hnext]
        exact exec_bind_of_ok (wf.exec_detach hjids)
      · rw [hnext]
        exact wf.trees_detach hjx htree
      · refine ⟨relink j [] (j :: rest.siblings), ?_⟩
        rw [← children_entry, wf.entry_detach hjids (wf.mem_ids_iff.mpr (wf.lt_of_parent? hx).2.1),
          if_neg hxj, NodeEntry.relink, children_entry, hchildren, hnext, Forest.siblings,
          relink_append, relink_of_not_mem hpre, relink_cons_of_ne hidj]
      · rw [hnext]
        intro t ht
        obtain rfl := List.mem_singleton.mp ht
        exact ⟨mt List.mem_singleton.mp hidj,
          fun i c hi => mt List.mem_singleton.mp (hbeforej i c hi)⟩

theorem exec_textAt {f : Forest} (h : f.entries (some x) ⊆ d.entries) :
    exec (NodeTable.textAt f.siblings.head?) d.table = (.ok f.firstText, d.table) := by
  have hfollow {i : NodeId} {e : NodeEntry} (hi : (i, e) ∈ f.entries (some x)) :
      exec (NodeTable.follow i) d.table = (.ok e, d.table) := by
    have hlt : i < d.fresh := by
      rw [← wf.mem_ids_iff, ← map_fst_entries]
      exact List.mem_map_of_mem (h hi)
    rw [← wf.entry_of_mem (h hi)]
    exact exec_follow hlt
  cases f with
  | nil => rfl
  | text i s rest => exact exec_bind_of_ok (hfollow List.mem_cons_self)
  | mask i m rest => exact exec_bind_of_ok (hfollow List.mem_cons_self)
  | element i t a c rest => exact exec_bind_of_ok (hfollow List.mem_cons_self)

/-- A mask that is turned back is filled in when what was right after it has been taken out. -/
theorem map_fill {d' : Document} {m : Mask} (fresh : NodeId) (hp : d.place? id = some p)
    (hnode : p.node = .mask id m .nil) (h : Cleared d d' p id x) :
    d'.trees.map (Forest.fill p.before.firstText id fresh (m.hidden ++ p.after.takeText.1)) =
      d.trees.map (·.unmask id fresh) ++ p.after.firstTree := by
  have hfirst : ∀ t ∈ p.after.firstTree,
      Forest.fill p.before.firstText id fresh (m.hidden ++ p.after.takeText.1) t = t := by
    intro t ht
    obtain ⟨hid, hprev⟩ := h.not_mem_firstTree t ht
    exact Forest.fill_of_not_mem hid hprev
  rw [h.trees_eq, List.map_append, List.map_map, List.map_congr_left hfirst, List.map_id',
    wf.map_unmask_eq_fill fresh hp hnode]
  rfl

/-- Behind a text the mask is taken out, and what it hides is added to the text. -/
theorem exec_joinBefore {d' : Document} {m : Mask} {i : NodeId} {c : String}
    (hp : d.place? id = some p) (hnode : p.node = .mask id m .nil) (hx : d.parent? id = some x)
    (hbefore : p.before.entries (some x) ⊆ d.entries) (h : Cleared d d' p id x)
    (hfirst : p.before.firstText = some (i, c)) :
    exec (NodeTable.joinBefore i id (m.hidden ++ p.after.takeText.1)) d'.table =
      (.ok i, { d with trees := d.trees.map (·.unmask id d.fresh) ++ p.after.firstTree ++
        [.mask id m .nil] : Document }.table) := by
  have wf' := h.wellFormed
  have htree : d.tree? id = some (.mask id m .nil) := hnode ▸ tree?_of_place? hp
  -- the mask and the text as they are when the text after the mask is gone
  have hi : d'.entry i = ⟨.text c, some x, []⟩ := by
    rw [h.entry_before i c hfirst]
    exact wf.entry_of_mem (hbefore (Forest.mem_entries_of_firstText hfirst (some x)))
  have hilt : i < d'.fresh := (wf'.lt_of_parent? (congrArg NodeEntry.parent hi)).1
  have hitree :=
    tree?_of_content (.text c) rfl (wf'.mem_ids_iff.mpr hilt) (congrArg NodeEntry.content hi)
  have hidlt : id < d'.fresh := h.fresh_eq ▸ (wf.lt_of_parent? hx).1
  have hne : id ≠ i := by
    rintro rfl
    rw [h.entry_self, entry_eq htree] at hi
    cases hi
  -- and when the text before it has been rewritten
  have wf₂ := (wf'.extends_retext hitree (c ++ (m.hidden ++ p.after.takeText.1))).wellFormed wf'
  have hself : (d'.retext i (c ++ (m.hidden ++ p.after.takeText.1))).entry id = d.entry id := by
    rw [wf'.entry_retext hitree _ hidlt, if_neg hne, h.entry_self]
  have hid := wf₂.mem_ids_iff.mpr hidlt
  have htree₂ := tree?_of_content (.mask m) rfl hid (hself ▸ content_entry htree)
  rw [NodeTable.joinBefore, exec_bind_of_ok (exec_change (by simpa using hilt)),
    wf'.table_retext hitree, exec_bind_of_ok (wf₂.exec_detach hid)]
  have hx₂ : (d'.retext i (c ++ (m.hidden ++ p.after.takeText.1))).parent? id = some x :=
    (congrArg NodeEntry.parent hself).trans hx
  refine congrArg (fun d : Document => (Except.ok i, d.table)) (eq_of_fields ?_ ?_ ?_)
  · rw [wf₂.trees_detach hx₂ htree₂, ← wf.map_fill d.fresh hp hnode h, hfirst, retext,
      List.map_map]
    rfl
  · rw [wf₂.fresh_detach]
    exact h.fresh_eq
  · rw [log_detach]
    exact h.log_eq

/-- Elsewhere what the mask hides becomes a text in its place. -/
theorem exec_putText {d' : Document} {m : Mask} (hp : d.place? id = some p)
    (hnode : p.node = .mask id m .nil) (hx : d.parent? id = some x) (h : Cleared d d' p id x)
    (hfirst : p.before.firstText = none) :
    exec (NodeTable.putText x id p.before.siblings.reverse.length (m.hidden ++ p.after.takeText.1))
        d'.table =
      (.ok d.fresh, { d with
        trees := d.trees.map (·.unmask id d.fresh) ++ p.after.firstTree ++ [.mask id m .nil]
        fresh := d.fresh + 1 : Document }.table) := by
  have ha := above_ne_nil_of_parent? hp hx
  have htree : d.tree? id = some (.mask id m .nil) := hnode ▸ tree?_of_place? hp
  have hunmask := unmask_eq hp hnode ha
  rw [hfirst] at hunmask
  have hreplaced : Replaced d' { d with
      trees := d.trees.map (·.unmask id d.fresh) ++ p.after.firstTree ++ [.mask id m .nil]
      fresh := d.fresh + 1 } id (.text d.fresh (m.hidden ++ p.after.takeText.1) .nil) := {
    wellFormed := (Extends.unmask wf hp hunmask).wellFormed wf
    mem_ids := by
      rw [h.wellFormed.mem_ids_iff, h.fresh_eq]
      exact (wf.lt_of_parent? hx).1
    exists_node := by
      refine ⟨.mask id m .nil, by rw [h.entry_self, entry_eq htree]; rfl, ?_⟩
      rw [← wf.map_fill d.fresh hp hnode h, hfirst]
      rfl
    ids_new := by rw [h.fresh_eq]; rfl
    fresh_eq := by rw [h.fresh_eq]; rfl
    log_eq := h.log_eq.symm }
  obtain ⟨post, hpost⟩ := h.exists_children
  have hx' : d'.parent? id = some x := (congrArg NodeEntry.parent h.entry_self).trans hx
  rw [NodeTable.putText, exec_bind_of_ok (NodeTable.exec_createIn ..), length_table, h.fresh_eq]
  refine exec_bind_of_ok (hreplaced.exec_putInstead h.wellFormed hx' hpost rfl ?_)
  intro j e hmem
  obtain ⟨rfl, rfl⟩ := Prod.mk.inj (List.mem_singleton.mp hmem)
  rw [h.fresh_eq, Nat.sub_self]
  rfl

theorem exec_putHidden {m : Mask} (hp : d.place? id = some p) (hnode : p.node = .mask id m .nil)
    (hx : d.parent? id = some x) :
    exec (NodeTable.putHidden x id m) d.table =
      (((d.unmask id).map (·.1)).mapError .refused,
        (d.orSame ((d.unmask id).map (·.2))).table) := by
  have ha := above_ne_nil_of_parent? hp hx
  obtain ⟨x', hx', hchildren, hbefore, hafter⟩ := wf.children_of_place? hp ha
  obtain rfl : x' = x := Option.some.inj (hx'.symm.trans hx)
  have hpre := (wf.not_mem_of_children hchildren).1
  have hfollow := exec_follow (wf.lt_of_parent? hx).2.1
  obtain ⟨d₁, h₁⟩ := wf.exists_cleared hx hchildren hbefore hafter
  rw [NodeTable.putHidden, exec_bind_of_ok hfollow, children_entry, hchildren,
    exec_bind_of_ok (NodeTable.exec_orStop (idxOf?_middle hpre)), getElem?_before, getElem?_after,
    List.getLast?_reverse,
    exec_bind_of_ok (wf.exec_textAt hbefore), exec_bind_of_ok (wf.exec_textAt hafter),
    exec_bind_of_ok h₁.exec_takeOut, unmask_eq hp hnode ha]
  cases hfirst : p.before.firstText with
  | none => exact wf.exec_putText hp hnode hx h₁ hfirst
  | some text => exact wf.exec_joinBefore hp hnode hx hbefore h₁ hfirst

/-- **Turning a mask back step by step.** -/
theorem exec_unmask (id : NodeId) :
    exec (NodeTable.unmask id) d.table =
      (((d.unmask id).map (·.1)).mapError .refused,
        (d.orSame ((d.unmask id).map (·.2))).table) := by
  rw [NodeTable.unmask]
  cases hp : d.place? id with
  | none =>
      rw [exec_bind_of_error (wf.exec_find_of_none (by rw [tree?, hp]; rfl)), unmask, hp]
      rfl
  | some p =>
      have hid := tree?_of_place? hp
      rw [exec_bind_of_ok (wf.exec_find hid)]
      generalize hnode : p.node = n at hid
      cases isNode_of_tree? hid with
      | text | element =>
          rw [exec_bind_of_error (NodeTable.exec_orStop_of_none (by rw [content_entry hid]; rfl)),
            unmask, hp]
          simp only [hnode]
          rfl
      | mask m =>
          have hmask : (d.entry id).content.mask? = some m := by
            rw [content_entry hid]
            rfl
          rw [exec_bind_of_ok (NodeTable.exec_orStop hmask), parent_entry]
          cases hx : d.parent? id with
          | none =>
              rw [exec_bind_of_error (NodeTable.exec_orStop_of_none rfl), unmask, hp]
              simp only [hnode, if_pos ((parent?_eq_none_iff_isEmpty hp).mp hx)]
              rfl
          | some x =>
              rw [exec_bind_of_ok (NodeTable.exec_orStop rfl)]
              exact wf.exec_putHidden hp hnode hx

end WellFormed

end Document

end TextMasking
