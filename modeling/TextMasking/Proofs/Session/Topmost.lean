import TextMasking.Proofs.Document.Links
import TextMasking.Proofs.Masking.Steps
import TextMasking.Proofs.Session.Coverage

/-! # What is above the root

The root begins without a parent.  One change alone gives it one: the host moves the root below an
element that is not attached (`Document.newTop?`, `Document.parent?_root_change`).  In a run without
such a move the root has no parent at any time, and only then (`Document.top_iff`).

While the root has no parent, the elements above an attached node lead to the root and end there
(`Document.Topped`): whether the node is excluded, and whether a pass of its own masks it when it
was added with others, is said by the nodes from it up to the root.  Passes keep this, so it holds
for each node of a batch when its turn comes (`Document.topped_of_changes`). -/

namespace TextMasking

namespace Document

variable {d d' : Document}

/-- The parent that a change gives to a root without one. -/
def newTop? (d : Document) : TreeChange → Option NodeId
  | .host (.appendChild parent child) =>
    if child = root ∧ (d.tag? parent).isSome ∧ d.attached parent = false then some parent else none
  | _ => none

theorem parent?_eq_none_iff {id : NodeId} : d.parent? id = none ↔ d.above id = [] :=
  List.head?_eq_none_iff

/-! ### Moving the root -/

/-- A node is not among the trees from which it was taken. -/
theorem WellFormed.not_mem_ids_erase (wf : d.WellFormed) {id : NodeId} {n : Forest}
    (h : d.tree? id = some n) : id ∉ (d.erase id).ids := by
  have hperm := (wf.shapes_erase h).map Prod.fst
  rw [List.map_append, map_fst_shapes, map_fst_shapes, Forest.map_fst_shapes] at hperm
  have hn := hperm.nodup_iff.mpr wf.ids_nodup
  intro hid
  exact (List.nodup_append.mp hn).2.2 id hid id (isNode_of_tree? h).mem_ids rfl

/-- What is moved gets the parent below which it is moved. -/
theorem parent?_appendChild {parent child : NodeId} (wf : d.WellFormed)
    (h : d.appendChild parent child = .ok d') : d'.parent? child = some parent := by
  have wf' := (Extends.appendChild wf h).wellFormed wf
  obtain ⟨t, a, c, tree, -, hc, -, -, ht, -⟩ := appendChild_cases h
  have hid : child ∈ d'.ids := by
    rw [wf'.mem_ids_iff]
    exact Nat.lt_of_lt_of_le (wf.mem_ids_iff.mp (mem_ids_of_tree? hc))
      (Extends.appendChild wf h).fresh_le
  obtain ⟨s, hs⟩ := exists_spot hid
  have hmem := hs
  rw [spots, ht, List.flatMap_map] at hmem
  obtain ⟨f, hf, hmem⟩ := List.mem_flatMap.mp hmem
  rcases Forest.mem_spotsFrom_appendChild hmem with hold | ⟨b, rest, hb, hnew⟩
  · exact absurd (List.mem_flatMap.mpr ⟨f, hf, Forest.mem_ids_of_mem_spotsFrom hold⟩)
      (wf.not_mem_ids_erase hc)
  · rcases (isNode_of_tree? hc).spot_cases hnew with ⟨-, habove⟩ | ⟨b', hb', hsuf⟩
    · rw [parent?, wf'.above_of_mem_spots hs, habove, List.map_cons, List.head?_cons, hb]
    · -- the node would lie below itself
      have hself : child ∈ d'.above child := by
        rw [wf'.above_of_mem_spots hs, ← hb']
        exact List.mem_map_of_mem (hsuf.subset List.mem_cons_self)
      exact absurd hself wf'.not_mem_above_self

/-- The root is moved below any element that does not lie below it. -/
theorem WellFormed.exists_appendChild_root_iff (wf : d.WellFormed) (parent : NodeId) :
    (∃ d', d.appendChild parent root = .ok d') ↔
      (d.tag? parent).isSome ∧ d.attached parent = false := by
  obtain ⟨t, a, c, hroot⟩ := wf.exists_tree?_root
  rw [Bool.eq_false_iff, ne_eq, attached_iff_mem, not_or]
  constructor
  · rintro ⟨d', h⟩
    obtain ⟨t, a, c, tree, hp, -, hne, habove, -⟩ := appendChild_cases h
    exact ⟨isSome_tag?_iff.mpr ⟨t, a, c, hp⟩, hne, habove⟩
  · rintro ⟨htag, hne, habove⟩
    obtain ⟨t', a', c', hp⟩ := isSome_tag?_iff.mp htag
    rw [appendChild, hp, hroot]
    simp only [hne, habove, decide_false, List.contains_eq_mem, Bool.or_self, Bool.false_eq_true,
      if_false]
    exact ⟨_, rfl⟩

/-! ### Changes that leave the root where it is -/

/-- A text that is taken apart is not above the root. -/
theorem above_root_replaceText {id : NodeId} {fragments : List Fragment} {new : List NodeId}
    (wf : d.WellFormed) (h : d.replaceText id fragments = .ok (new, d')) :
    d'.above root = d.above root := by
  have wf' := (Extends.replaceText wf h).wellFormed wf
  obtain ⟨s, hs⟩ := exists_spot wf.root_mem_ids
  have hne := (wf.above_replaceText_self h).1.symm
  exact (wf.eq_of_mem_spots wf' hs (wf.mem_spots_replaceText h hne hs)).1

/-- A mask is not the root, so a tree that the root is stays one when the mask is turned back. -/
theorem above_root_unmask {id new : NodeId} (wf : d.WellFormed) (htop : d.above root = [])
    (h : d.unmask id = .ok (new, d')) : d'.above root = [] := by
  obtain ⟨p, m, joined, hp, hnode, -, -, -, ht, -⟩ := unmask_cases h
  have wf' := (Extends.unmask wf hp h).wellFormed wf
  obtain ⟨t, a, c, hroot⟩ := wf.exists_tree?_root
  have hne : root ≠ id := by
    rintro rfl
    rw [tree?_of_place? hp, hnode] at hroot
    cases hroot
  obtain ⟨q, hq, hqn⟩ := Option.map_eq_some_iff.mp hroot
  have habove : q.above = [] := by
    rw [above, hq, List.map_eq_nil_iff] at htop
    exact htop
  have hmem : q.node.unmask id d.fresh ∈ d'.trees := by
    rw [ht, List.append_assoc]
    exact List.mem_append_left _
      (List.mem_map_of_mem (wf.place?_of_above_eq_nil hq habove).2)
  have hnodeq := isNode_of_tree? (tree?_of_place? hq)
  rw [above, wf'.place?_of_mem_trees hmem (hnodeq.unmask hne)]
  rfl

/-- An edit of the host that does not move the root leaves it without a parent. -/
theorem above_root_edit (wf : d.WellFormed) (htop : d.above root = []) {e : HostEdit}
    (he : e.movesRoot = false) : (d.edit e).2.above root = [] := by
  have moved {d : Document} (wf : d.WellFormed) (htop : d.above root = []) {parent child : NodeId}
      (hne : child ≠ root) : (d.edit (.appendChild parent child)).2.above root = [] := by
    simp only [edit]
    cases h : d.appendChild parent child with
    | error e => exact htop
    | ok d' => exact above_root_appendChild wf htop hne h
  have hfresh : d.fresh ≠ root := Nat.ne_of_gt (wf.mem_ids_iff.mp wf.root_mem_ids)
  cases e with
  | createElement tag => exact (above_createElement tag).trans htop
  | createText content => exact (above_createText content).trans htop
  | appendElement parent tag =>
      rw [edit_appendElement]
      exact moved (wellFormed_edit wf (.createElement tag)) ((above_createElement tag).trans htop)
        hfresh
  | appendText parent content =>
      rw [edit_appendText]
      exact moved (wellFormed_edit wf (.createText content))
        ((above_createText content).trans htop) hfresh
  | appendChild parent child => exact moved wf htop (by simpa [HostEdit.movesRoot] using he)
  | remove id =>
      simp only [edit]
      cases h : d.remove id with
      | error e => exact htop
      | ok d' => exact (above_remove wf htop h (attached_iff_mem.mpr (.inl rfl))).trans htop
  | setAttribute id name value =>
      simp only [edit]
      cases h : d.setAttribute id name value with
      | error e => exact htop
      | ok d' => exact (above_setAttribute wf h).trans htop
  | takeLog => exact htop

/-- **One change:** a root without a parent gets one exactly when it is moved below an element that
is not attached. -/
theorem parent?_root_change (wf : d.WellFormed) (htop : d.parent? root = none) (c : TreeChange) :
    (d.change c).parent? root = d.newTop? c := by
  have habove := parent?_eq_none_iff.mp htop
  cases c with
  | host e =>
      by_cases he : e.movesRoot = false
      · rw [change, parent?_eq_none_iff.mpr (above_root_edit wf habove he)]
        cases e with
        | appendChild parent child =>
            rw [newTop?, if_neg]
            rintro ⟨rfl, -⟩
            simp [HostEdit.movesRoot] at he
        | _ => rfl
      · cases e with
        | appendChild parent child =>
            obtain rfl : child = root := by simpa [HostEdit.movesRoot] using he
            have hiff := wf.exists_appendChild_root_iff parent
            simp only [change, edit, newTop?, true_and]
            cases happ : d.appendChild parent root with
            | ok d' =>
                rw [if_pos (hiff.mp ⟨d', happ⟩)]
                exact parent?_appendChild wf happ
            | error e =>
                rw [if_neg fun h => ?_]
                · exact htop
                · obtain ⟨d', h⟩ := hiff.mpr h
                  rw [happ] at h
                  cases h
        | _ => exact absurd rfl he
  | replaceText id fragments =>
      rw [change]
      cases h : d.replaceText id fragments with
      | ok r => exact parent?_eq_none_iff.mpr ((above_root_replaceText wf h).trans habove)
      | error e => exact htop
  | unmask id =>
      rw [change]
      cases h : d.unmask id with
      | ok r => exact parent?_eq_none_iff.mpr (above_root_unmask wf habove h)
      | error e => exact htop

theorem changeAll_take_succ {changes : List TreeChange} {n : ℕ} {c : TreeChange}
    (h : changes[n]? = some c) :
    d.changeAll (changes.take (n + 1)) = (d.changeAll (changes.take n)).change c := by
  rw [List.take_add_one, h, Option.toList_some, changeAll, List.foldl_append]
  rfl

/-- **A run:** the root stays without a parent throughout exactly if it is never moved below an
element that is not attached. -/
theorem top_iff (wf : d.WellFormed) (htop : d.parent? root = none) (changes : List TreeChange) :
    (∀ n, (d.changeAll (changes.take n)).parent? root = none) ↔
      ∀ n c, changes[n]? = some c → (d.changeAll (changes.take n)).newTop? c = none := by
  constructor
  · intro h n c hc
    have hstep := parent?_root_change (wellFormed_changeAll wf (changes.take n)) (h n) c
    rw [← hstep, ← changeAll_take_succ hc, h]
  · intro h n
    induction n with
    | zero => exact htop
    | succ n ih =>
        cases hc : changes[n]? with
        | none =>
            rw [List.take_add_one, hc, Option.toList_none, List.append_nil]
            exact ih
        | some c =>
            rw [changeAll_take_succ hc, parent?_root_change (wellFormed_changeAll wf _) ih]
            exact h n c hc

/-! ### Below a root without a parent -/

/-- The root has no parent, and the way up from an attached node ends there.  The nodes on this way
say whether the node is excluded and whether it is masked by a pass of its own. -/
structure Topped (d : Document) : Prop where
  parent?_root : d.parent? root = none
  way : ∀ id, d.attached id = true → ∃ way, root ∉ way ∧
    id :: d.above id = way ++ [root] ∧
    d.excluded id = (way ++ [root]).any d.excludesBelow ∧
    ∀ added, d.isTarget added id =
      (!(way ++ [root]).any d.excludesBelow && !(way ++ [root]).tail.any added.contains)

theorem WellFormed.topped (wf : d.WellFormed) (htop : d.above root = []) : d.Topped where
  parent?_root := parent?_eq_none_iff.mpr htop
  way := by
    intro id ha
    obtain ⟨way, hroot, hway⟩ : ∃ way, root ∉ way ∧ id :: d.above id = way ++ [root] := by
      rcases attached_iff_mem.mp ha with rfl | hmem
      · exact ⟨[], List.not_mem_nil, by rw [htop, List.nil_append]⟩
      · obtain ⟨pre, hsplit⟩ := wf.above_split hmem
        rw [htop] at hsplit
        have hway : id :: d.above id = (id :: pre) ++ [root] := by rw [hsplit, List.cons_append]
        have hn := wf.above_nodup id
        rw [hway] at hn
        exact ⟨id :: pre, fun hin => (List.nodup_append.mp hn).2.2 root hin root
          (List.mem_singleton.mpr rfl) rfl, hway⟩
    have hany := wf.any_excludesBelow id
    rw [hway] at hany
    refine ⟨way, hroot, hway, hany.symm, fun added => ?_⟩
    rw [isTarget, ha, Bool.true_and, hany, ← hway, List.tail_cons]

end Document

/-! ### Passes -/

/-- A pass leaves the root where it is. -/
theorem Engine.above_root_apply (e : Engine) {d : Document} (wf : d.WellFormed) (x : NodeId) :
    (e.apply d x).1.above Document.root = d.above Document.root := by
  refine Engine.keeps (P := fun d' _ => d'.above Document.root = d.above Document.root) ?_ wf rfl
  intro m _
  exact {
    giveUp := fun _ _ _ h => h
    replace := fun _ _ _ _ _ wf _ hrep h => (Document.above_root_replaceText wf hrep).trans h
    leave := fun _ _ _ _ _ _ _ h => h }

/-- Whenever the turn of a node of a batch comes, the root has no parent. -/
theorem Session.topped_maskAdded (engine : Engine) (added ids : List NodeId) {d : Document}
    (wf : d.WellFormed) (htop : d.above Document.root = []) (r : Report) :
    (ids.foldl (maskAdded engine added) (r, d)).2.Topped := by
  induction ids generalizing r d with
  | nil => exact wf.topped htop
  | cons id ids ih =>
      rw [List.foldl_cons, maskAdded]
      dsimp only
      split_ifs
      · exact ih (engine.apply_confined wf id).wellFormed
          ((engine.above_root_apply wf id).trans htop) _
      · exact ih wf htop r

namespace Document

/-- **The root of every document that can be reached has no parent, as long as it is not moved below
an element that is not attached.**  Then the nodes from an attached node up to the root say whether
it is excluded, and whether it is a target, also after the passes over any part of a batch. -/
theorem topped_of_changes (s : String) (changes : List TreeChange) (engine : Engine)
    (added ids : List NodeId) (r : Report) :
    let at' (n : ℕ) := (ofPlainText s).changeAll (changes.take n)
    ((∀ n, (at' n).parent? root = none) ↔
        ∀ n c, changes[n]? = some c → (at' n).newTop? c = none) ∧
      ∀ n, (at' n).parent? root = none →
        (at' n).Topped ∧ (∀ c, ((at' n).change c).parent? root = (at' n).newTop? c) ∧
          (ids.foldl (Session.maskAdded engine added) (r, at' n)).2.Topped := by
  intro at'
  have wf (n : ℕ) : (at' n).WellFormed := wellFormed_changeAll (wellFormed_ofPlainText s) _
  refine ⟨top_iff (wellFormed_ofPlainText s) rfl changes, fun n htop => ?_⟩
  have habove := parent?_eq_none_iff.mp htop
  exact ⟨(wf n).topped habove, parent?_root_change (wf n) htop,
    Session.topped_maskAdded engine added ids (wf n) habove r⟩

/-- Moving the root below an element that is attached is refused; it is still the top then. -/
theorem topped_after_refused_move :
    let engine := Engine.ofRules [.literal "Acme" "X"] .default
    let d := (ofPlainText "").changeAll [.host (.appendElement 0 "div"),
      .host (.appendText 1 "Acme"), .host (.appendChild 1 0), .replaceText 2 [.text "Acme"]]
    d.parent? root = none ∧ d.Topped ∧ (∀ c, (d.change c).parent? root = d.newTop? c) ∧
      ([1, 3].foldl (Session.maskAdded engine [1, 3]) (.empty, d)).2.Topped :=
  ⟨by decide +kernel, (topped_of_changes "" [.host (.appendElement 0 "div"),
      .host (.appendText 1 "Acme"), .host (.appendChild 1 0), .replaceText 2 [.text "Acme"]]
    (Engine.ofRules [.literal "Acme" "X"] .default) [1, 3] [1, 3] .empty).2 4 (by decide +kernel)⟩

/-- The root is put below an element that is not attached: the text below the root is excluded then,
although neither it nor the root excludes what is below. -/
theorem moved_root_has_parent :
    let d := (ofPlainText "").changeAll [.host (.createElement "pre"), .host (.appendChild 1 0),
      .host (.appendText 0 "Acme")]
    d.parent? root = some 1 ∧ d.attached 2 = true ∧ d.above 2 = [root, 1] ∧
      d.excluded 2 = true ∧ [2, root].any d.excludesBelow = false := by
  decide +kernel

end Document

end TextMasking
