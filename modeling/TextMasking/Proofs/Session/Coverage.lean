import TextMasking.Proofs.Document.Additions
import TextMasking.Proofs.Document.Children
import TextMasking.Proofs.Masking.Confinement
import TextMasking.Session.Basic

/-! # Nothing that was added escapes, and nothing is read twice

A session runs passes over some of the nodes that a batch says were added (`Session.passRoots`).
These are the nodes that are targets when the batch comes in: a pass over one of them does not make
another one a target or keep it from being one (`Document.isTarget_confined`).  Of the added nodes
at and above a node that was attached the outermost one is a target, and no other one is; so each
such node lies below exactly one node over which a pass is run (`Session.passRoots_cover`). -/

namespace TextMasking

open Document (Logged)

namespace Document

variable {d : Document}

theorem isTarget_iff {added : List NodeId} {id : NodeId} :
    d.isTarget added id = true ↔
      d.attached id = true ∧ d.excluded id = false ∧ ∀ a ∈ d.above id, a ∉ added := by
  rw [isTarget, Bool.and_eq_true, Bool.and_eq_true, Bool.not_eq_true', Bool.not_eq_true',
    List.any_eq_false, and_assoc]
  simp only [List.contains_iff_mem]

/-- A pass over an added node leaves the other nodes the targets that they were. -/
theorem isTarget_confined {d' : Document} {added : List NodeId} {x id : NodeId}
    (wf : d.WellFormed) (h : Confined x d d') (hx : x ∈ added) (hid : id ∈ d.ids) (hne : id ≠ x) :
    d'.isTarget added id = d.isTarget added id := by
  by_cases habove : x ∈ d.above id
  · have hno : d.isTarget added id ≠ true := fun ht => (isTarget_iff.mp ht).2.2 x habove hx
    have hno' : d'.isTarget added id ≠ true := by
      intro ht
      obtain ⟨ha, -, hfree⟩ := isTarget_iff.mp ht
      rcases h.below id habove with hx' | ⟨hroot, hnil⟩
      · exact hfree x hx' hx
      · rcases attached_iff_mem.mp ha with e | ha
        · exact hroot e
        · rw [hnil] at ha
          cases ha
    rw [Bool.eq_false_iff.mpr hno, Bool.eq_false_iff.mpr hno']
  · obtain ⟨s, hs⟩ := exists_spot hid
    obtain ⟨e, e'⟩ := wf.eq_of_mem_spots h.wellFormed hs (h.beyond id s hne habove hs)
    rw [isTarget, isTarget, attached, attached, e, e']

/-! ### Targets at and above a node -/

variable {added : List NodeId}

/-- At or above an added node that is attached and not excluded there is a target. -/
theorem exists_target (wf : d.WellFormed) (htop : d.above root = []) {a : NodeId}
    (hadd : a ∈ added) (ha : d.attached a = true) (he : d.excluded a = false) :
    ∃ z ∈ added, d.isTarget added z = true ∧ (a = z ∨ z ∈ d.above a) := by
  by_cases hfree : ∀ b ∈ d.above a, b ∉ added
  · exact ⟨a, hadd, isTarget_iff.mpr ⟨ha, he, hfree⟩, .inl rfl⟩
  · push Not at hfree
    obtain ⟨b, hb, hbadd⟩ := hfree
    obtain ⟨pre, hsplit⟩ := wf.above_split hb
    have hlt : (d.above b).length < (d.above a).length := by
      rw [hsplit, List.length_append, List.length_cons]
      omega
    obtain ⟨z, hz, htarget, hzb⟩ := exists_target wf htop hbadd
      (wf.attached_of_mem_above htop hb ha) (wf.excluded_of_mem_above hb he)
    refine ⟨z, hz, htarget, .inr ?_⟩
    rcases hzb with rfl | hzb
    · exact hb
    · exact wf.above_subset hb hzb
termination_by (d.above a).length

/-- Two targets are not above each other, so no node lies at or below both. -/
theorem target_unique (wf : d.WellFormed) {z z' id : NodeId} (hz : z ∈ added) (hz' : z' ∈ added)
    (ht : d.isTarget added z = true) (ht' : d.isTarget added z' = true)
    (h : id = z ∨ z ∈ d.above id) (h' : id = z' ∨ z' ∈ d.above id) : z = z' := by
  rcases wf.comparable h h' with e | hab | hab
  · exact e
  · exact absurd hz ((isTarget_iff.mp ht').2.2 z hab)
  · exact absurd hz' ((isTarget_iff.mp ht).2.2 z' hab)

end Document

namespace Session

open Mutation (addedNodes)

/-- The nodes over which passes are run for added nodes, in order. -/
def passRoots (engine : Engine) (added : List NodeId) : List NodeId → Document → List NodeId
  | [], _ => []
  | id :: rest, d =>
    if d.isTarget added id then id :: passRoots engine added rest (engine.apply d id).1
    else passRoots engine added rest d

/-- Runs a pass over a node and adds its report. -/
def passOver (engine : Engine) (state : Report × Document) (id : NodeId) : Report × Document :=
  (state.1.merge (engine.apply state.2 id).2, (engine.apply state.2 id).1)

variable {engine : Engine} {added : List NodeId} {d : Document}

/-- A batch is handled by these passes. -/
theorem foldl_maskAdded (engine : Engine) (added ids : List NodeId) (r : Report) (d : Document) :
    ids.foldl (maskAdded engine added) (r, d) =
      (passRoots engine added ids d).foldl (passOver engine) (r, d) := by
  induction ids generalizing r d with
  | nil => rfl
  | cons id ids ih =>
      rw [List.foldl_cons, maskAdded, passRoots]
      dsimp only
      split_ifs
      · exact ih _ _
      · exact ih _ _

theorem passRoots_subset (engine : Engine) (added ids : List NodeId) (d : Document) :
    passRoots engine added ids d ⊆ ids := by
  induction ids generalizing d with
  | nil => exact List.nil_subset _
  | cons id ids ih =>
      rw [passRoots]
      split_ifs
      · exact List.cons_subset_cons id (ih _)
      · exact List.subset_cons_of_subset id (ih d)

/-- **Passes are run over the targets,** if no pass is run over a node that was not known before. -/
theorem passRoots_eq_filter (wf : d.WellFormed) {ids : List NodeId} (hn : ids.Nodup)
    (hadd : ids ⊆ added) (hknown : passRoots engine added ids d ⊆ d.ids) :
    passRoots engine added ids d = ids.filter (d.isTarget added) := by
  induction ids generalizing d with
  | nil => rfl
  | cons id ids ih =>
      obtain ⟨hnot, hn⟩ := List.nodup_cons.mp hn
      obtain ⟨hid, hadd⟩ := List.cons_subset.mp hadd
      rw [passRoots] at hknown ⊢
      split_ifs at hknown ⊢ with ht
      · have hc := engine.apply_confined wf id
        obtain ⟨-, hrest⟩ := List.cons_subset.mp hknown
        have hroots := ih hc.wellFormed hn hadd fun z hz => hc.mem_ids wf (hrest hz)
        rw [List.filter_cons_of_pos ht, hroots]
        congr 1
        refine List.filter_congr fun i hi => ?_
        by_cases hmem : i ∈ d.ids
        · refine Document.isTarget_confined wf hc hid hmem ?_
          rintro rfl
          exact hnot hi
        · -- a node that becomes known would be one over which a pass is run
          have hno : d.isTarget added i ≠ true := fun h =>
            hmem (Document.mem_ids_of_attached wf (Document.isTarget_iff.mp h).1)
          have hno' : (engine.apply d id).1.isTarget added i ≠ true := fun h =>
            hmem (hrest (hroots ▸ List.mem_filter.mpr ⟨hi, h⟩))
          rw [Bool.eq_false_iff.mpr hno, Bool.eq_false_iff.mpr hno']
      · rw [List.filter_cons_of_neg ht, ih wf hn hadd hknown]

theorem mem_addedNodes {batch : List Mutation} {id : NodeId} :
    id ∈ addedNodes batch ↔ .added id ∈ batch := by
  rw [addedNodes, List.mem_eraseDups, List.mem_filterMap]
  constructor
  · rintro ⟨i | i | i, hm, e⟩
    · cases e
      exact hm
    · cases e
    · cases e
  · exact fun h => ⟨_, h, rfl⟩

theorem nodup_eraseDups (ids : List NodeId) : ids.eraseDups.Nodup := by
  cases ids with
  | nil => exact List.nodup_nil
  | cons id ids =>
      rw [List.eraseDups_cons, List.nodup_cons, List.mem_eraseDups, List.mem_filter]
      exact ⟨by simp, nodup_eraseDups _⟩
termination_by ids.length
decreasing_by
  exact Nat.lt_succ_of_le (List.length_filter_le _ _)

/-- **Each node that was added lies below exactly one node over which a pass is run,** and these do
not overlap. -/
theorem passRoots_cover {start : Document} (h : Logged start d) (engine : Engine) :
    let now := d.takeLog.2
    let added := addedNodes d.log
    let roots := passRoots engine added added now
    roots = added.filter (now.isTarget added) ∧
      (∀ id, now.attached id = true → now.excluded id = false → start.attached id = false →
        ∃! z, z ∈ roots ∧ id ∈ now.subtree z) ∧
      roots.Pairwise fun z z' => (now.subtree z).Disjoint (now.subtree z') := by
  intro now added roots
  have wf : now.WellFormed := Document.wellFormed_edit h.wellFormed .takeLog
  have htop : now.above Document.root = [] := h.top
  have hnodup : added.Nodup := nodup_eraseDups _
  have hroots : roots = added.filter (now.isTarget added) :=
    passRoots_eq_filter wf hnodup (List.Subset.refl _) fun z hz =>
      h.known z (mem_addedNodes.mp (passRoots_subset _ _ _ _ hz))
  have hone {z z' id : NodeId} (hz : z ∈ roots) (hz' : z' ∈ roots) (hid : id ∈ now.subtree z)
      (hid' : id ∈ now.subtree z') : z = z' := by
    rw [hroots, List.mem_filter] at hz hz'
    exact Document.target_unique wf hz.1 hz'.1 hz.2 hz'.2 (wf.mem_subtree_iff.mp hid).2
      (wf.mem_subtree_iff.mp hid').2
  refine ⟨hroots, ?_, ?_⟩
  · intro id ha he hnew
    obtain ⟨a, hida, hlog⟩ := (h.logged id ha).resolve_left (by simp [hnew])
    replace hida : id = a ∨ a ∈ now.above id := hida
    have hatt : now.attached a = true ∧ now.excluded a = false := by
      rcases hida with rfl | hab
      · exact ⟨ha, he⟩
      · exact ⟨wf.attached_of_mem_above htop hab ha, wf.excluded_of_mem_above hab he⟩
    obtain ⟨z, hz, ht, haz⟩ := Document.exists_target wf htop (mem_addedNodes.mpr hlog)
      hatt.1 hatt.2
    have hmem : id ∈ now.subtree z := by
      refine wf.mem_subtree_iff.mpr ⟨Document.mem_ids_of_attached wf ha, ?_⟩
      rcases hida with rfl | hab
      · exact haz
      · rcases haz with rfl | haz
        · exact .inr hab
        · exact .inr (wf.above_subset hab haz)
    have hzroot : z ∈ roots := by
      rw [hroots]
      exact List.mem_filter.mpr ⟨hz, ht⟩
    exact ⟨z, ⟨hzroot, hmem⟩, fun z' hz' => hone hz'.1 hzroot hz'.2 hmem⟩
  · have hn : roots.Nodup := hroots ▸ hnodup.filter _
    refine hn.imp_of_mem ?_
    intro z z' hz hz' hne id hid hid'
    exact hne (hone hz hz' hid hid')

/-- **A batch names what was added.**  Of a document that can be reached whose root has no parent
the log is taken, the host makes edits that do not move the root, and the log is taken again.  Then
the session runs passes over the targets of the batch, a node that has become attached and is not
excluded lies at or below exactly one of them, and no two of them share a node. -/
theorem handleBatch_covers (s : String) (changes : List TreeChange) (options : Options)
    (engine : Engine) (edits : List HostEdit) :
    let before := ((Document.ofPlainText s).changeAll changes).takeLog.2
    let batch := (before.editAll edits).takeLog.1
    let now := (before.editAll edits).takeLog.2
    let roots := passRoots engine (addedNodes batch) (addedNodes batch) now
    before.parent? Document.root = none →
      (∀ e ∈ edits, e ≠ .takeLog ∧ e.movesRoot = false) →
      handleBatch ⟨options, some engine⟩ batch now = roots.foldl (passOver engine) (.empty, now) ∧
        roots = (addedNodes batch).filter (now.isTarget (addedNodes batch)) ∧
        (∀ id, now.attached id = true → now.excluded id = false → before.attached id = false →
          ∃! z, z ∈ roots ∧ id ∈ now.subtree z) ∧
        roots.Pairwise fun z z' => (now.subtree z).Disjoint (now.subtree z') := by
  intro before batch now roots htop hedits
  have wf := Document.wellFormed_changeAll (Document.wellFormed_ofPlainText s) changes
  have hlogged : Logged before (before.editAll edits) :=
    (Logged.takeLog wf (List.head?_eq_none_iff.mp htop)).editAll hedits
  exact ⟨foldl_maskAdded engine _ _ _ _, passRoots_cover hlogged engine⟩

/-- A tree is built while it is detached and put below the root, and a text is put into it then. -/
theorem handleBatch_covers_nested :
    let engine := Engine.ofRules [.literal "Acme" "X"] .default
    let edits : List HostEdit := [.createElement "div", .appendElement 1 "p",
      .appendText 2 "Acme", .appendChild 0 1, .appendText 2 "Acme Co"]
    let before := ((Document.ofPlainText "").changeAll []).takeLog.2
    let batch := (before.editAll edits).takeLog.1
    let now := (before.editAll edits).takeLog.2
    before.parent? Document.root = none ∧ (∀ e ∈ edits, e ≠ .takeLog ∧ e.movesRoot = false) ∧
      batch = [.added 1, .added 4] ∧ now.attached 4 = true ∧ now.excluded 4 = false ∧
      before.attached 4 = false ∧
      ∃! z, z ∈ passRoots engine (addedNodes batch) (addedNodes batch) now ∧ 4 ∈ now.subtree z :=
  ⟨by decide +kernel, by decide, by decide +kernel, by decide +kernel, by decide +kernel,
    by decide +kernel,
    (handleBatch_covers "" [] .default (.ofRules [.literal "Acme" "X"] .default)
      [.createElement "div", .appendElement 1 "p", .appendText 2 "Acme", .appendChild 0 1,
        .appendText 2 "Acme Co"] (by decide +kernel) (by decide)).2.2.1 4 (by decide +kernel)
      (by decide +kernel) (by decide +kernel)⟩

/-- An added node above the root keeps everything below the root from being masked: the root was put
below the element `1`, which then comes below an element that was attached and taken out again. -/
theorem not_covered_below_moved_root : ¬∀ (s : String) (changes : List TreeChange)
    (engine : Engine) (edits : List HostEdit),
    let before := ((Document.ofPlainText s).changeAll changes).takeLog.2
    let batch := (before.editAll edits).takeLog.1
    let now := (before.editAll edits).takeLog.2
    (∀ e ∈ edits, e ≠ .takeLog ∧ e.movesRoot = false) →
      ∀ id, now.attached id = true → now.excluded id = false → before.attached id = false →
        ∃ z, z ∈ passRoots engine (addedNodes batch) (addedNodes batch) now ∧
          id ∈ now.subtree z := by
  intro h
  obtain ⟨z, hz, -⟩ := h "" [.host (.createElement "p"), .host (.appendChild 1 0)]
    (.ofRules [.literal "Acme" "X"] .default)
    [.appendElement 0 "p", .remove 2, .appendChild 2 1, .appendText 0 "Acme"]
    (by decide) 3 (by decide +kernel) (by decide +kernel) (by decide +kernel)
  exact List.eq_nil_iff_forall_not_mem.mp (by decide +kernel) z hz

end Session

end TextMasking
