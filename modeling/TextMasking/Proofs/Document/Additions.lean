import TextMasking.Proofs.Document.History
import TextMasking.Proofs.Document.Spots

/-! # The log names what was added

A node that has become attached lies at or below a node that the log says was added: the one that
was moved last among the node and the elements above it (`Document.Logged`).  Each edit keeps this
(`Document.Logged.edit`) as long as the root itself is not moved: then all that is above an attached
node is attached with it, so whatever is moved below the root is logged. -/

namespace TextMasking

/-- The edit moves the root. -/
def HostEdit.movesRoot : HostEdit → Bool
  | .appendChild _ child => child == Document.root
  | _ => false

namespace Document

variable {d d' : Document} {y : NodeId}

/-! ### What is above a node after an edit -/

/-- A new tree of one node leaves all others where they are. -/
theorem above_addTree {tree : Forest} (h : ∀ p, tree.place? y = some p → p.above = []) :
    (d.addTree tree).above y = d.above y := by
  simp only [above, place?, addTree, List.findSome?_append, List.findSome?_cons,
    List.findSome?_nil]
  cases d.trees.findSome? (·.place? y) with
  | some p => rfl
  | none =>
      cases hp : tree.place? y with
      | none => rfl
      | some p => simp [h p hp]

theorem above_createElement (tag : String) : (d.createElement tag).2.above y = d.above y := by
  refine above_addTree fun p hp => ?_
  simp only [Forest.place?, Forest.placeFrom] at hp
  split_ifs at hp
  cases hp
  rfl

theorem above_createText (content : String) : (d.createText content).2.above y = d.above y := by
  refine above_addTree fun p hp => ?_
  simp only [Forest.place?, Forest.placeFrom] at hp
  split_ifs at hp
  cases hp
  rfl

theorem above_setAttribute {id : NodeId} {name value : String} (wf : d.WellFormed)
    (h : d.setAttribute id name value = .ok d') : d'.above y = d.above y := by
  obtain ⟨t, a, c, -, ht, hf⟩ := setAttribute_cases h
  have wf' := (Extends.setAttribute wf h).wellFormed wf
  have hlinks : d'.spots.map Forest.links = d.spots.map Forest.links := by
    rw [spots, spots, ht, List.flatMap_map, List.map_flatMap, List.map_flatMap]
    exact List.flatMap_congr fun f _ => Forest.map_links_setAttribute [] [] rfl
  by_cases hy : y ∈ d'.ids
  · obtain ⟨s, hs⟩ := exists_spot hy
    have hmem := List.mem_map_of_mem (f := Forest.links) hs
    rw [hlinks] at hmem
    obtain ⟨⟨i, s'⟩, hs', e⟩ := List.mem_map.mp hmem
    obtain ⟨rfl, e⟩ := Prod.mk.inj e
    rw [wf.above_of_mem_spots hs', wf'.above_of_mem_spots hs, e]
  · have hy' : y ∉ d.ids := by
      rw [wf.mem_ids_iff, ← hf, ← wf'.mem_ids_iff]
      exact hy
    rw [above_eq_nil_of_not_mem hy, above_eq_nil_of_not_mem hy']

/-- A node of the erased trees is where it was. -/
theorem mem_spots_of_erase {id : NodeId} {s : Spot} (h : (y, s) ∈ (d.erase id).spots) :
    (y, s) ∈ d.spots := by
  obtain ⟨t', ht', hs⟩ := List.mem_flatMap.mp h
  obtain ⟨t, ht, rfl⟩ := List.mem_map.mp (List.mem_of_mem_filter ht')
  exact List.mem_flatMap.mpr ⟨t, ht, Forest.mem_spotsFrom_erase hs⟩

/-- A tree that is moved does not hold a root that has no parent. -/
theorem WellFormed.root_not_mem_ids (wf : d.WellFormed) (htop : d.above root = []) {id : NodeId}
    {n : Forest} (h : d.tree? id = some n) (hne : id ≠ root) : root ∉ n.ids := by
  refine wf.not_mem_ids_of_tree? h hne.symm ?_
  rw [htop]
  exact List.not_mem_nil

theorem WellFormed.root_mem_ids (wf : d.WellFormed) : root ∈ d.ids := by
  obtain ⟨t, a, c, hroot⟩ := wf.exists_tree?_root
  exact mem_ids_of_tree? hroot

theorem mem_ids_of_attached (wf : d.WellFormed) (h : d.attached y = true) : y ∈ d.ids := by
  rcases attached_iff_mem.mp h with rfl | h
  · exact wf.root_mem_ids
  · exact mem_ids_of_mem_above h

/-- What stays attached when a node is taken out is where it was. -/
theorem above_remove {id : NodeId} (wf : d.WellFormed) (htop : d.above root = [])
    (h : d.remove id = .ok d') (ha : d'.attached y = true) : d'.above y = d.above y := by
  have wf' := (Extends.remove wf h).wellFormed wf
  obtain ⟨p, hp, ⟨-, rfl⟩ | ⟨hne, ht, -⟩⟩ := remove_cases h
  · rfl
  · have hid : id ≠ root := by
      rintro rfl
      rw [above, hp, List.map_eq_nil_iff] at htop
      exact hne htop
    have hroot := wf.root_not_mem_ids htop (tree?_of_place? hp) hid
    obtain ⟨s, hs⟩ := exists_spot (mem_ids_of_attached wf' ha)
    have hs' := hs
    rw [spots, ht, List.flatMap_append, List.mem_append, List.flatMap_singleton] at hs'
    rcases hs' with hs' | hs'
    · exact (wf.eq_of_mem_spots wf' (mem_spots_of_erase hs') hs).1
    · exfalso
      rcases attached_iff_mem.mp ha with rfl | ha
      · exact hroot (Forest.mem_ids_of_mem_spotsFrom hs')
      · rw [wf'.above_of_mem_spots hs] at ha
        obtain ⟨b, hb, e⟩ := List.mem_map.mp ha
        obtain ⟨pre, rest, hsplit⟩ := List.append_of_mem hb
        rcases Forest.mem_spotsFrom_of_suffix hs' ⟨pre, hsplit.symm⟩ with hnil | hb
        · cases List.suffix_nil.mp hnil
        · exact hroot (e ▸ Forest.mem_ids_of_mem_spotsFrom hb)

/-- A node is where it was after another one was moved, or it has come with the tree of that
one. -/
theorem mem_spots_appendChild {parent child : NodeId} (h : d.appendChild parent child = .ok d') :
    ∃ tree, d.tree? child = some tree ∧ ∀ y s, (y, s) ∈ d'.spots →
      (y, s) ∈ d.spots ∨ ∃ above, (y, s) ∈ tree.spotsFrom above := by
  obtain ⟨t, a, c, tree, -, hc, -, -, ht, -⟩ := appendChild_cases h
  refine ⟨tree, hc, fun y s hs => ?_⟩
  rw [spots, ht, List.flatMap_map] at hs
  obtain ⟨f, hf, hs⟩ := List.mem_flatMap.mp hs
  rcases Forest.mem_spotsFrom_appendChild hs with hs | ⟨b, rest, -, hs⟩
  · exact .inl (mem_spots_of_erase (List.mem_flatMap.mpr ⟨f, hf, hs⟩))
  · exact .inr ⟨b :: rest, hs⟩

/-- **What is moved takes along what lies below it,** and all else stays where it is. -/
theorem above_appendChild {parent child : NodeId} (wf : d.WellFormed)
    (h : d.appendChild parent child = .ok d') :
    d'.above y = d.above y ∨ y = child ∨ child ∈ d'.above y := by
  have e := Extends.appendChild wf h
  have wf' := e.wellFormed wf
  by_cases hy : y ∈ d'.ids
  · obtain ⟨s, hs⟩ := exists_spot hy
    obtain ⟨tree, hc, hspots⟩ := mem_spots_appendChild h
    rcases hspots y s hs with hs' | ⟨above, hs'⟩
    · exact .inl (wf.eq_of_mem_spots wf' hs' hs).1
    · rcases (isNode_of_tree? hc).spot_cases hs' with ⟨e, -⟩ | ⟨b, e, hsuf⟩
      · exact .inr (.inl e)
      · refine .inr (.inr ?_)
        rw [wf'.above_of_mem_spots hs, ← e]
        exact List.mem_map_of_mem (hsuf.subset List.mem_cons_self)
  · have hy' : y ∉ d.ids := by
      rw [wf.mem_ids_iff]
      exact fun hlt => hy (wf'.mem_ids_iff.mpr (Nat.lt_of_lt_of_le hlt e.fresh_le))
    rw [above_eq_nil_of_not_mem hy, above_eq_nil_of_not_mem hy']
    exact .inl rfl

/-- A root that has no parent gets none when another node is moved. -/
theorem above_root_appendChild {parent child : NodeId} (wf : d.WellFormed)
    (htop : d.above root = []) (hne : child ≠ root) (h : d.appendChild parent child = .ok d') :
    d'.above root = [] := by
  have wf' := (Extends.appendChild wf h).wellFormed wf
  obtain ⟨s, hs⟩ := exists_spot wf'.root_mem_ids
  obtain ⟨tree, hc, hspots⟩ := mem_spots_appendChild h
  rcases hspots root s hs with hs' | ⟨above, hs'⟩
  · rw [(wf.eq_of_mem_spots wf' hs' hs).1, htop]
  · exact absurd (Forest.mem_ids_of_mem_spotsFrom hs') (wf.root_not_mem_ids htop hc hne)

/-! ### What the log says of an edit -/

/-- The log says that the node was added. -/
def LogsAdded (d : Document) (id : NodeId) : Prop := .added id ∈ d.log

theorem not_mem_removal {id x : NodeId} : .added x ∉ d.removal id := by
  rw [removal]
  split_ifs <;> simp

theorem logsAdded_remove {id x : NodeId} (h : d.remove id = .ok d') :
    d'.LogsAdded x ↔ d.LogsAdded x := by
  rw [remove] at h
  split at h
  · cases h
  · split_ifs at h
    · cases h
      rfl
    · cases h
      simp only [LogsAdded, note, List.mem_append, not_mem_removal, or_false, erase]

theorem logsAdded_setAttribute {id x : NodeId} {name value : String}
    (h : d.setAttribute id name value = .ok d') : d'.LogsAdded x ↔ d.LogsAdded x := by
  rw [setAttribute] at h
  split at h
  · cases h
  · cases h
    split_ifs
    · simp [LogsAdded, note]
    · rfl
  · cases h

/-- A node that is moved is logged if it is attached then. -/
theorem logsAdded_appendChild {parent child x : NodeId}
    (h : d.appendChild parent child = .ok d') :
    d'.LogsAdded x ↔ d.LogsAdded x ∨ x = child ∧ d'.attached child = true := by
  rw [appendChild] at h
  split at h
  · cases h
  · split at h
    · cases h
    · split_ifs at h
      · cases h
      · simp only [pure, Except.pure, Except.ok.injEq] at h
        split_ifs at h with hatt
        · have ha : d'.attached child = true := by
            rw [← h]
            exact hatt
          have hlog : d'.log = d.log ++ d.removal child ++ [.added child] := by
            rw [← h]
            rfl
          simp [LogsAdded, hlog, ha, not_mem_removal]
        · have ha : d'.attached child ≠ true := by
            rw [← h]
            exact hatt
          have hlog : d'.log = d.log ++ d.removal child := by
            rw [← h]
            rfl
          simp [LogsAdded, hlog, ha, not_mem_removal]
  · cases h

/-! ### Edits -/

/-- What has been attached since `start` lies at or below a node that the log says was added; the
log names nodes of the document, and the root has no parent. -/
structure Logged (start d : Document) : Prop where
  wellFormed : d.WellFormed
  top : d.above root = []
  logged : ∀ y, d.attached y = true → start.attached y = true ∨
    ∃ a, (y = a ∨ a ∈ d.above y) ∧ d.LogsAdded a
  known : ∀ a, d.LogsAdded a → a ∈ d.ids

namespace Logged

variable {start : Document}

/-- An edit that logs no addition leaves the attached nodes where they are. -/
theorem of_above_eq (h : Logged start d) {new : List (NodeId × NodeKind)} (e : Extends d d' new)
    (hlog : ∀ a, d'.LogsAdded a ↔ d.LogsAdded a)
    (habove : ∀ y, d'.attached y = true → d'.above y = d.above y) : Logged start d' where
  wellFormed := e.wellFormed h.wellFormed
  top := by
    rw [habove root (attached_iff_mem.mpr (.inl rfl)), h.top]
  logged := by
    intro y ha
    have hy := habove y ha
    rw [attached_iff_mem, hy, ← attached_iff_mem] at ha
    simp only [hy, hlog]
    exact h.logged y ha
  known := by
    intro a ha
    have wf' := e.wellFormed h.wellFormed
    have hlt := h.wellFormed.mem_ids_iff.mp (h.known a ((hlog a).mp ha))
    exact wf'.mem_ids_iff.mpr (Nat.lt_of_lt_of_le hlt e.fresh_le)

/-- **A node is moved:** what is attached with it lies at or below it. -/
theorem appendChild (h : Logged start d) {parent child : NodeId} (hne : child ≠ root)
    (happ : d.appendChild parent child = .ok d') : Logged start d' where
  wellFormed := (Extends.appendChild h.wellFormed happ).wellFormed h.wellFormed
  top := above_root_appendChild h.wellFormed h.top hne happ
  logged := by
    intro y ha
    have wf' := (Extends.appendChild h.wellFormed happ).wellFormed h.wellFormed
    have htop := above_root_appendChild h.wellFormed h.top hne happ
    rcases above_appendChild (y := y) h.wellFormed happ with e | hcome
    · rw [attached_iff_mem, e, ← attached_iff_mem] at ha
      refine (h.logged y ha).imp_right ?_
      rintro ⟨a, hya, hlog⟩
      exact ⟨a, e ▸ hya, (logsAdded_appendChild happ).mpr (.inl hlog)⟩
    · refine .inr ⟨child, hcome, (logsAdded_appendChild happ).mpr (.inr ⟨rfl, ?_⟩)⟩
      rcases hcome with rfl | hmem
      · exact ha
      · exact wf'.attached_of_mem_above htop hmem ha
  known := by
    intro a ha
    have e := Extends.appendChild h.wellFormed happ
    obtain ⟨tree, hc, -⟩ := mem_spots_appendChild happ
    have hlt : a < d.fresh := by
      rw [← h.wellFormed.mem_ids_iff]
      rcases (logsAdded_appendChild happ).mp ha with ha | ⟨rfl, -⟩
      · exact h.known a ha
      · exact mem_ids_of_tree? hc
    exact (e.wellFormed h.wellFormed).mem_ids_iff.mpr (Nat.lt_of_lt_of_le hlt e.fresh_le)

/-- **Every edit that does not move the root is logged.** -/
theorem edit (h : Logged start d) {e : HostEdit} (htake : e ≠ .takeLog)
    (he : e.movesRoot = false) : Logged start (d.edit e).2 := by
  have wf := h.wellFormed
  have moved {d : Document} (h : Logged start d) {parent child : NodeId} (hne : child ≠ root) :
      Logged start (d.edit (.appendChild parent child)).2 := by
    simp only [Document.edit]
    cases happ : d.appendChild parent child with
    | error e => exact h
    | ok d' => exact h.appendChild hne happ
  have hfresh : d.fresh ≠ root := Nat.ne_of_gt (wf.mem_ids_iff.mp wf.root_mem_ids)
  have element (tag : String) : Logged start (d.createElement tag).2 :=
    h.of_above_eq (.createElement wf tag) (fun _ => Iff.rfl) fun _ _ => above_createElement tag
  have text (content : String) : Logged start (d.createText content).2 :=
    h.of_above_eq (.createText wf content) (fun _ => Iff.rfl) fun _ _ => above_createText content
  cases e with
  | createElement tag => exact element tag
  | createText content => exact text content
  | appendElement parent tag =>
      rw [edit_appendElement]
      exact moved (element tag) hfresh
  | appendText parent content =>
      rw [edit_appendText]
      exact moved (text content) hfresh
  | appendChild parent child => exact moved h (by simpa [HostEdit.movesRoot] using he)
  | remove id =>
      simp only [Document.edit]
      cases hrem : d.remove id with
      | error e => exact h
      | ok d' =>
          exact h.of_above_eq (.remove wf hrem) (fun _ => logsAdded_remove hrem)
            fun _ ha => above_remove wf h.top hrem ha
  | setAttribute id name value =>
      simp only [Document.edit]
      cases hset : d.setAttribute id name value with
      | error e => exact h
      | ok d' =>
          exact h.of_above_eq (.setAttribute wf hset) (fun _ => logsAdded_setAttribute hset)
            fun _ _ => above_setAttribute wf hset
  | takeLog => exact absurd rfl htake

/-- **So are any edits.** -/
theorem editAll (h : Logged start d) {edits : List HostEdit}
    (he : ∀ e ∈ edits, e ≠ .takeLog ∧ e.movesRoot = false) : Logged start (d.editAll edits) := by
  induction edits generalizing d with
  | nil => exact h
  | cons e edits ih =>
      obtain ⟨hfirst, hrest⟩ := List.forall_mem_cons.mp he
      exact ih (h.edit hfirst.1 hfirst.2) hrest

/-- Right after the log was taken nothing has been added. -/
theorem takeLog (wf : d.WellFormed) (htop : d.above root = []) :
    Logged d.takeLog.2 d.takeLog.2 where
  wellFormed := wellFormed_edit wf .takeLog
  top := htop
  logged := fun _ ha => .inl ha
  known := fun _ h => absurd h List.not_mem_nil

end Logged

end Document

end TextMasking
